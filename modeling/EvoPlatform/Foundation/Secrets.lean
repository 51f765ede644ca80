import EvoPlatform.Foundation.Base64
import EvoPlatform.Foundation.Utf8

/-!
# Encrypted texts

A text is encrypted with an authenticated cipher and a key that is derived from
a configured secret.  What was encrypted is decrypted to the same text.
-/

namespace EvoPlatform

/-- AES-256-GCM: a key and an initialization vector make bytes a ciphertext and
a tag, from which the same key makes the bytes again. -/
structure Aead where
  cipher : List UInt8 → List UInt8 → List UInt8 → List UInt8
  authTag : List UInt8 → List UInt8 → List UInt8 → List UInt8
  /-- Of a key, a vector, a tag and a ciphertext.  A tag that does not fit
  throws. -/
  decipher : List UInt8 → List UInt8 → List UInt8 → List UInt8 →
    Option (List UInt8)
  tagLength : ∀ key iv plain, (authTag key iv plain).length = 16
  restored : ∀ key iv plain, iv.length = 12 →
    decipher key iv (authTag key iv plain) (cipher key iv plain) = some plain

/-- What secrets are encrypted with. -/
structure Secrets where
  aead : Aead
  sha256 : List UInt8 → List UInt8
  secretKey : String

section Secrets

variable (secrets : Secrets)

def Secrets.derivedKey : List UInt8 :=
  secrets.sha256 (Utf8.encode secrets.secretKey)

/-- In `base64`, the initialization vector that is drawn, the tag and the
ciphertext. -/
def encryptSecret (iv : List UInt8) (plain : String) : String :=
  let bytes := Utf8.encode plain
  String.ofList (Base64.encode Base64.standard
    (iv ++ secrets.aead.authTag secrets.derivedKey iv bytes ++
      secrets.aead.cipher secrets.derivedKey iv bytes))

/-- No text stands for an exception. -/
def decryptSecret (encrypted : String) : Option String :=
  let buf := Base64.decode encrypted.toList
  let iv := buf.take 12
  let tag := (buf.drop 12).take 16
  let ciphertext := buf.drop 28
  (secrets.aead.decipher secrets.derivedKey iv tag ciphertext).map Utf8.decode

/-- What was encrypted is decrypted to the same text. -/
theorem decryptSecret_encryptSecret
    {iv : List UInt8}
    (ivLength : iv.length = 12)
    (plain : String) :
    decryptSecret secrets (encryptSecret secrets iv plain) = some plain := by
  have tagLength := secrets.aead.tagLength secrets.derivedKey iv
    (Utf8.encode plain)
  rw [decryptSecret, encryptSecret, String.toList_ofList,
    Base64.decode_encode Base64.standard_readable]
  rw [List.append_assoc, List.take_left' ivLength, List.drop_left' ivLength,
    List.take_left' tagLength, ← List.append_assoc,
    List.drop_left' (by rw [List.length_append, ivLength, tagLength]),
    secrets.aead.restored _ _ _ ivLength, Option.map_some, Utf8.decode_encode]

/-- What is encrypted has the form of `base64`. -/
theorem isStandard_encryptSecret (iv : List UInt8) (plain : String) :
    Base64.isStandard (encryptSecret secrets iv plain) = true :=
  Base64.isStandard_encode _

/-- What is encrypted is not empty. -/
theorem encryptSecret_ne_empty
    {iv : List UInt8}
    (ivLength : iv.length = 12)
    (plain : String) :
    encryptSecret secrets iv plain ≠ "" := by
  intro isEmpty
  have back := Base64.decode_encode Base64.standard_readable
    (iv ++ secrets.aead.authTag secrets.derivedKey iv (Utf8.encode plain) ++
      secrets.aead.cipher secrets.derivedKey iv (Utf8.encode plain))
  rw [← String.toList_ofList (l := Base64.encode _ _)] at back
  have noBytes : Base64.decode (encryptSecret secrets iv plain).toList = [] := by
    rw [isEmpty]
    rfl
  have bytes := congrArg List.length (back.symm.trans noBytes)
  simp only [List.length_append, ivLength, List.length_nil] at bytes
  omega

end Secrets

end EvoPlatform
