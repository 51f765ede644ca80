import EvoPlatform.Foundation.PercentEncoding
import EvoPlatform.Foundation.Utf8

/-!
# Form encoding

The reader of `application/x-www-form-urlencoded`, which takes a text apart at
ampersands and equals signs and undoes percent-encoding.  What any encoder
wrote that escapes these characters is read back.
-/

namespace EvoPlatform
namespace FormEncoding

/-- The value of a hexadecimal digit, in upper or lower case. -/
def hexValue (byte : UInt8) : Option Nat :=
  if 0x30 ≤ byte.toNat ∧ byte.toNat ≤ 0x39 then some (byte.toNat - 0x30)
  else if 0x41 ≤ byte.toNat ∧ byte.toNat ≤ 0x46 then some (byte.toNat - 0x37)
  else if 0x61 ≤ byte.toNat ∧ byte.toNat ≤ 0x66 then some (byte.toNat - 0x57)
  else none

/-- The byte that two hexadecimal digits stand for. -/
def hexByte (high low : UInt8) : Option UInt8 :=
  (hexValue high).bind fun upper =>
    (hexValue low).map fun lower => UInt8.ofNat (upper * 16 + lower)

/-- Undo percent-encoding.  A percent sign without two digits stays. -/
def percentDecode : List UInt8 → List UInt8
  | [] => []
  | byte :: rest =>
      match rest with
      | high :: low :: after =>
          match (if byte = 0x25 then hexByte high low else none) with
          | some decoded => decoded :: percentDecode after
          | none => byte :: percentDecode (high :: low :: after)
      | others => byte :: percentDecode others

/-- The text of a name or a value. -/
def decodeComponent (bytes : List UInt8) : String :=
  Utf8.decode (percentDecode
    (bytes.map fun byte => if byte = 0x2B then 0x20 else byte))

/-- The name and the value of a part. -/
def pair (part : List UInt8) : String × String :=
  (decodeComponent (part.takeWhile fun byte => byte ≠ 0x3D),
    decodeComponent ((part.dropWhile fun byte => byte ≠ 0x3D).drop 1))

/-- The names and values of a text, in order. -/
def parse (text : String) : List (String × String) :=
  (((Utf8.encode text).splitOn 0x26).filter fun part => part ≠ []).map pair

/-- The first value of a name. -/
def get (params : List (String × String)) (name : String) : Option String :=
  (params.find? fun param => param.1 = name).map Prod.snd

/-! ## What an encoder writes -/

/-- A name and a value, written by an encoder. -/
def written (keeps : Char → Bool) (param : String × String) : String :=
  percentEncode keeps param.1 ++ "=" ++ percentEncode keeps param.2

/-- Names and values, written by an encoder. -/
def serialize (keeps : Char → Bool) : List (String × String) → String
  | [] => ""
  | [param] => written keeps param
  | param :: next :: rest =>
      written keeps param ++ "&" ++ serialize keeps (next :: rest)

/-- What is written is a mark or a part of what was encoded. -/
theorem mem_serialize_cases
    {keeps : Char → Bool}
    {params : List (String × String)}
    {char : Char}
    (present : char ∈ (serialize keeps params).toList) :
    char = '&' ∨ char = '=' ∨
      ∃ text, char ∈ (percentEncode keeps text).toList := by
  have ofParam : ∀ param : String × String,
      char ∈ (written keeps param).toList →
        char = '=' ∨ ∃ text, char ∈ (percentEncode keeps text).toList := by
    intro param isWritten
    rw [written, String.toList_append, String.toList_append] at isWritten
    rcases List.mem_append.mp isWritten with nameOrMark | ofValue
    · rcases List.mem_append.mp nameOrMark with ofName | isMark
      · exact .inr ⟨_, ofName⟩
      · exact .inl (List.mem_singleton.mp isMark)
    · exact .inr ⟨_, ofValue⟩
  induction params with
  | nil => exact absurd present List.not_mem_nil
  | cons param rest inductionHypothesis =>
      cases rest with
      | nil => exact .inr (ofParam param present)
      | cons next rest =>
          rw [serialize, String.toList_append, String.toList_append] at present
          rcases List.mem_append.mp present with firstOrMark | others
          · rcases List.mem_append.mp firstOrMark with ofFirst | isMark
            · exact .inr (ofParam param ofFirst)
            · exact .inl (List.mem_singleton.mp isMark)
          · exact inductionHypothesis others

/-- An encoder that keeps only ASCII, and none of the characters that mean
something. -/
structure Safe (keeps : Char → Bool) : Prop where
  ascii : ∀ char, keeps char = true → char.toNat < 0x80
  percent : keeps '%' = false
  ampersand : keeps '&' = false
  equals : keeps '=' = false
  plus : keeps '+' = false

/-- A byte that is read as nothing but itself or a part of an escape. -/
def Plain (byte : UInt8) : Prop := byte ≠ 0x26 ∧ byte ≠ 0x3D ∧ byte ≠ 0x2B

section Written

variable {keeps : Char → Bool} {char : Char}

theorem utf8EncodeChar_of_ascii (isAscii : char.toNat < 0x80) :
    String.utf8EncodeChar char = [UInt8.ofNat char.toNat] := by
  have small : char.val.toNat ≤ 0x7F := Nat.le_of_lt_succ isAscii
  rw [String.utf8EncodeChar]
  simp only [small, ite_true]
  rfl

/-- A digit is a single byte, which can be read and means nothing else. -/
theorem hexDigit_byte {digit : Nat} (isDigit : digit < 16) :
    String.utf8EncodeChar (hexDigit digit) =
        [UInt8.ofNat (hexDigit digit).toNat] ∧
      hexValue (UInt8.ofNat (hexDigit digit).toNat) = some digit ∧
      UInt8.ofNat (hexDigit digit).toNat ∉ [0x25, 0x26, 0x3D, 0x2B] := by
  have all : ∀ digit < 16, (hexDigit digit).toNat < 0x80 ∧
      hexValue (UInt8.ofNat (hexDigit digit).toNat) = some digit ∧
      UInt8.ofNat (hexDigit digit).toNat ∉ [0x25, 0x26, 0x3D, 0x2B] := by
    decide +kernel
  obtain ⟨isAscii, readable, meaningless⟩ := all digit isDigit
  exact ⟨utf8EncodeChar_of_ascii isAscii, readable, meaningless⟩

/-- The bytes of an escape. -/
theorem encode_percentByte (byte : UInt8) :
    (percentByte byte).flatMap String.utf8EncodeChar =
      [0x25, UInt8.ofNat (hexDigit (byte.toNat / 16)).toNat,
        UInt8.ofNat (hexDigit (byte.toNat % 16)).toNat] := by
  have bound := byte.toNat_lt
  have isPercent : String.utf8EncodeChar '%' = [0x25] := by decide
  simp only [percentByte, List.flatMap_cons, List.flatMap_nil, isPercent,
    (hexDigit_byte (show byte.toNat / 16 < 16 by omega)).1,
    (hexDigit_byte (show byte.toNat % 16 < 16 by omega)).1]
  rfl

/-- What an encoder writes for a character, in bytes. -/
def charBytes (keeps : Char → Bool) (char : Char) : List UInt8 :=
  (percentChar keeps char).flatMap String.utf8EncodeChar

theorem encode_percentEncode (text : String) :
    Utf8.encode (percentEncode keeps text) =
      text.toList.flatMap (charBytes keeps) := by
  rw [Utf8.encode, percentEncode, String.toList_ofList, List.flatMap_assoc]
  rfl

theorem charBytes_of_kept (safe : Safe keeps) (kept : keeps char = true) :
    charBytes keeps char = [UInt8.ofNat char.toNat] := by
  rw [charBytes, percentChar, if_pos kept, List.flatMap_singleton,
    utf8EncodeChar_of_ascii (safe.ascii char kept)]

theorem charBytes_of_escaped (escaped : keeps char = false) :
    charBytes keeps char = (String.utf8EncodeChar char).flatMap fun byte =>
      (percentByte byte).flatMap String.utf8EncodeChar := by
  rw [charBytes, percentChar, if_neg (by simp [escaped]), List.flatMap_assoc]

/-- A kept character is none that means something. -/
theorem ne_of_kept
    {other : Char}
    (kept : keeps char = true)
    (escaped : keeps other = false)
    (isAscii : char.toNat < 0x80)
    (otherAscii : other.toNat < 0x80) :
    UInt8.ofNat char.toNat ≠ UInt8.ofNat other.toNat := by
  intro same
  have sameNumber := congrArg UInt8.toNat same
  rw [UInt8.toNat_ofNat', UInt8.toNat_ofNat'] at sameNumber
  have sameChar : char = other := by
    rw [← Char.ofNat_toNat char, ← Char.ofNat_toNat other]
    congr 1
    omega
  rw [sameChar, escaped] at kept
  contradiction

/-- What is written is taken apart nowhere. -/
theorem plain_of_mem_encode
    (safe : Safe keeps)
    {text : String}
    {byte : UInt8}
    (present : byte ∈ Utf8.encode (percentEncode keeps text)) :
    Plain byte := by
  rw [encode_percentEncode] at present
  obtain ⟨char, _, isByte⟩ := List.mem_flatMap.mp present
  cases kept : keeps char with
  | true =>
      rw [charBytes_of_kept safe kept] at isByte
      rw [List.mem_singleton.mp isByte]
      have isAscii := safe.ascii char kept
      exact ⟨ne_of_kept kept safe.ampersand isAscii (by decide),
        ne_of_kept kept safe.equals isAscii (by decide),
        ne_of_kept kept safe.plus isAscii (by decide)⟩
  | false =>
      rw [charBytes_of_escaped kept] at isByte
      obtain ⟨escapedByte, _, isPart⟩ := List.mem_flatMap.mp isByte
      have bound := escapedByte.toNat_lt
      have upper := (hexDigit_byte
        (show escapedByte.toNat / 16 < 16 by omega)).2.2
      have lower := (hexDigit_byte
        (show escapedByte.toNat % 16 < 16 by omega)).2.2
      rw [encode_percentByte] at isPart
      simp only [List.mem_cons, List.not_mem_nil, or_false, not_or]
        at isPart upper lower
      rcases isPart with rfl | rfl | rfl
      · exact ⟨by decide, by decide, by decide⟩
      · exact ⟨upper.2.1, upper.2.2.1, upper.2.2.2⟩
      · exact ⟨lower.2.1, lower.2.2.1, lower.2.2.2⟩

end Written

/-! ## Reading back -/

section Read

variable {keeps : Char → Bool} {char : Char} {rest : List UInt8}

theorem percentDecode_of_ne
    {byte : UInt8}
    (noPercent : byte ≠ 0x25) :
    percentDecode (byte :: rest) = byte :: percentDecode rest := by
  cases rest with
  | nil => rfl
  | cons high tail =>
      cases tail with
      | nil => rfl
      | cons low after => rw [percentDecode, if_neg noPercent]

theorem percentDecode_escape (byte : UInt8) :
    percentDecode ((percentByte byte).flatMap String.utf8EncodeChar ++ rest) =
      byte :: percentDecode rest := by
  have bound := byte.toNat_lt
  have whole : byte.toNat / 16 * 16 + byte.toNat % 16 = byte.toNat := by omega
  have read : hexByte (UInt8.ofNat (hexDigit (byte.toNat / 16)).toNat)
      (UInt8.ofNat (hexDigit (byte.toNat % 16)).toNat) = some byte := by
    rw [hexByte, (hexDigit_byte (show byte.toNat / 16 < 16 by omega)).2.1,
      (hexDigit_byte (show byte.toNat % 16 < 16 by omega)).2.1,
      Option.bind_some, Option.map_some, whole, UInt8.ofNat_toNat]
  rw [encode_percentByte]
  simp only [List.cons_append, List.nil_append]
  rw [percentDecode, if_pos rfl, read]

/-- The bytes of a character are what the encoder has written. -/
theorem percentDecode_charBytes (safe : Safe keeps) :
    percentDecode (charBytes keeps char ++ rest) =
      String.utf8EncodeChar char ++ percentDecode rest := by
  cases kept : keeps char with
  | true =>
      have isAscii := safe.ascii char kept
      rw [charBytes_of_kept safe kept, utf8EncodeChar_of_ascii isAscii]
      exact percentDecode_of_ne
        (ne_of_kept kept safe.percent isAscii (by decide))
  | false =>
      rw [charBytes_of_escaped kept]
      induction String.utf8EncodeChar char with
      | nil => rfl
      | cons byte bytes inductionHypothesis =>
          rw [List.flatMap_cons, List.append_assoc, percentDecode_escape,
            inductionHypothesis]
          rfl

/-- A name or a value is read as it was written. -/
theorem decodeComponent_encode (safe : Safe keeps) (text : String) :
    decodeComponent (Utf8.encode (percentEncode keeps text)) = text := by
  have noPlus : ∀ byte ∈ Utf8.encode (percentEncode keeps text),
      (if byte = 0x2B then 0x20 else byte) = byte := by
    intro byte present
    rw [if_neg (plain_of_mem_encode safe present).2.2]
  rw [decodeComponent, List.map_congr_left noPlus, List.map_id',
    encode_percentEncode]
  have decoded : ∀ chars : List Char,
      percentDecode (chars.flatMap (charBytes keeps)) =
        chars.flatMap String.utf8EncodeChar := by
    intro chars
    induction chars with
    | nil => rfl
    | cons char chars inductionHypothesis =>
        rw [List.flatMap_cons, percentDecode_charBytes safe,
          inductionHypothesis, List.flatMap_cons]
  rw [decoded]
  exact Utf8.decode_encode text

theorem encode_written (param : String × String) :
    Utf8.encode (written keeps param) =
      Utf8.encode (percentEncode keeps param.1) ++
        0x3D :: Utf8.encode (percentEncode keeps param.2) := by
  rw [written, Utf8.encode_append, Utf8.encode_append, List.append_assoc]
  rfl

/-- A part is taken apart where it was put together. -/
theorem pair_written (safe : Safe keeps) (param : String × String) :
    pair (Utf8.encode (written keeps param)) = param := by
  have ofName : ∀ byte ∈ Utf8.encode (percentEncode keeps param.1),
      decide (byte ≠ 0x3D) = true := by
    intro byte present
    exact decide_eq_true (plain_of_mem_encode safe present).2.1
  rw [pair, encode_written, List.takeWhile_append_of_pos ofName,
    List.dropWhile_append_of_pos ofName,
    List.takeWhile_cons_of_neg (by decide),
    List.dropWhile_cons_of_neg (by decide), List.append_nil,
    List.drop_one, List.tail_cons, decodeComponent_encode safe,
    decodeComponent_encode safe]

/-- The bytes of what was written. -/
theorem encode_serialize (params : List (String × String)) :
    Utf8.encode (serialize keeps params) =
      [0x26].intercalate (params.map fun param =>
        Utf8.encode (written keeps param)) := by
  induction params with
  | nil => rfl
  | cons param rest inductionHypothesis =>
      cases rest with
      | nil => simp [serialize]
      | cons next rest =>
          rw [serialize, Utf8.encode_append, Utf8.encode_append,
            inductionHypothesis]
          simp only [List.map_cons, List.intercalate_cons_cons]
          rfl

/-- What was written is read back. -/
theorem parse_serialize
    (safe : Safe keeps)
    (params : List (String × String)) :
    parse (serialize keeps params) = params := by
  have whole : ∀ part ∈ params.map fun param =>
      Utf8.encode (written keeps param), 0x26 ∉ part ∧ part ≠ [] := by
    intro part present
    obtain ⟨param, _, rfl⟩ := List.mem_map.mp present
    rw [encode_written]
    constructor
    · intro isPart
      rcases List.mem_append.mp isPart with ofName | others
      · exact (plain_of_mem_encode safe ofName).1 rfl
      · rcases List.mem_cons.mp others with isEquals | ofValue
        · exact absurd isEquals (by decide)
        · exact (plain_of_mem_encode safe ofValue).1 rfl
    · simp
  have back : params.map (fun param =>
      pair (Utf8.encode (written keeps param))) = params := by
    rw [List.map_congr_left fun param _ => pair_written safe param,
      List.map_id']
  rw [parse, encode_serialize]
  cases params with
  | nil => rfl
  | cons param rest =>
      rw [List.splitOn_intercalate _ (fun part present => (whole part present).1)
          (by simp),
        List.filter_eq_self.mpr (fun part present =>
          decide_eq_true (whole part present).2),
        List.map_map]
      exact back

end Read

end FormEncoding
end EvoPlatform
