import EvoPlatform.Foundation.Base64
import EvoPlatform.Foundation.FormEncoding
import EvoPlatform.Sdk.NodeClient

/-!
# The reset link of the app template

`requestPasswordReset` mails a link that carries the address and the token in its
fragment, and `parseResetLink` takes them out of `window.location.hash`.
-/

namespace EvoPlatform
namespace Template

open Sdk.NodeClient

/-! ## The link -/

/-- `randomBytes(32).toString("base64url")`. -/
def rawToken (bytes : List UInt8) : String :=
  String.ofList (Base64.encode Base64.url bytes)

/-- `appBaseUrl`, of `AUTH_URL`. -/
def appBaseUrl : Option String → String
  | some authUrl =>
      match authUrl.toList.reverse with
      | '/' :: rest => String.ofList rest.reverse
      | _ => authUrl
  | none => "http://localhost:4180"

/-- The link of `requestPasswordReset`. -/
def resetLink (baseUrl email raw : String) : String :=
  baseUrl ++ "/reset-password#email=" ++ encodeURIComponent email ++
    "&token=" ++ raw

/-! ## What the page reads -/

/-- What the address bar keeps of a fragment; the rest is percent-encoded. -/
def keptInFragment (char : Char) : Bool :=
  0x20 < char.toNat && char.toNat < 0x7F && char.toNat ≠ 0x22 &&
    char.toNat ≠ 0x3C && char.toNat ≠ 0x3E && char.toNat ≠ 0x60

/-- `window.location.hash` of a link. -/
def locationHash (link : String) : String :=
  match link.toList.dropWhile fun char => char ≠ '#' with
  | [] => ""
  | [_] => ""
  | _ :: fragment =>
      "#" ++ percentEncode keptInFragment (String.ofList fragment)

structure ResetLink where
  email : String
  token : String
  deriving DecidableEq

/-- The parameters of the query, for links that carried them there. -/
structure ResetFallback where
  email : Option String
  token : Option String

/-- The text without this character in front. -/
def without (first : Char) (text : String) : String :=
  match text.toList with
  | [] => text
  | char :: rest => if char = first then String.ofList rest else text

/-- `parseResetLink`.  `URLSearchParams` drops a question mark in front. -/
def parseResetLink (hash : String) (fallback : ResetFallback) :
    Option ResetLink :=
  let params := FormEncoding.parse (without '?' (without '#' hash))
  let email :=
    ((FormEncoding.get params "email").or fallback.email).getD ""
  let token :=
    ((FormEncoding.get params "token").or fallback.token).getD ""
  if email ≠ "" ∧ token ≠ "" then some ⟨email, token⟩ else none

/-! ## The page reads what was mailed -/

/-- A character that `encodeURIComponent` keeps. -/
theorem kept_cases {char : Char} (kept : keptByEncodeURIComponent char = true) :
    char.toNat < 0x80 ∧ keptInFragment char = true := by
  rw [keptByEncodeURIComponent, Bool.or_eq_true] at kept
  rcases kept with isAlphanum | isMark
  · change (decide ('A'.val ≤ char.val ∧ char.val ≤ 'Z'.val) ||
      decide ('a'.val ≤ char.val) && decide (char.val ≤ 'z'.val) ||
      decide ('0'.val ≤ char.val) && decide (char.val ≤ '9'.val)) = true
      at isAlphanum
    simp only [Bool.or_eq_true, Bool.and_eq_true, decide_eq_true_eq,
      UInt32.le_iff_toNat_le, Char.toNat_val] at isAlphanum
    simp only [keptInFragment, Bool.and_eq_true, decide_eq_true_eq]
    have digits : '0'.toNat = 0x30 ∧ '9'.toNat = 0x39 := ⟨rfl, rfl⟩
    have upper : 'A'.toNat = 0x41 ∧ 'Z'.toNat = 0x5A := ⟨rfl, rfl⟩
    have lower : 'a'.toNat = 0x61 ∧ 'z'.toNat = 0x7A := ⟨rfl, rfl⟩
    omega
  · have all : ("-_.!~*'()".toList.all fun mark =>
        mark.toNat < 0x80 && keptInFragment mark) = true := by
      decide +kernel
    have isKept := List.all_eq_true.mp all char
      (List.contains_iff_mem.mp isMark)
    simpa using isKept

theorem encodeURIComponent_safe :
    FormEncoding.Safe keptByEncodeURIComponent where
  ascii := fun _ kept => (kept_cases kept).1
  percent := by decide
  ampersand := by decide
  equals := by decide
  plus := by decide

/-- The address bar keeps what an encoder has written. -/
theorem keptInFragment_of_mem
    {text : String}
    {char : Char}
    (present : char ∈ (encodeURIComponent text).toList) :
    keptInFragment char = true := by
  rw [encodeURIComponent, percentEncode, String.toList_ofList] at present
  obtain ⟨original, _, isChar⟩ := List.mem_flatMap.mp present
  rw [percentChar] at isChar
  split at isChar
  · rename_i kept
    rw [List.mem_singleton.mp isChar]
    exact (kept_cases kept).2
  · obtain ⟨byte, _, isPart⟩ := List.mem_flatMap.mp isChar
    have bound := byte.toNat_lt
    have digits : ∀ digit < 16, keptInFragment (hexDigit digit) = true := by
      decide +kernel
    simp only [percentByte, List.mem_cons, List.not_mem_nil, or_false] at isPart
    rcases isPart with rfl | rfl | rfl
    · decide
    · exact digits _ (by omega)
    · exact digits _ (by omega)

/-- A text of kept characters is written as it is. -/
theorem percentEncode_of_kept
    {keeps : Char → Bool}
    {text : String}
    (kept : ∀ char ∈ text.toList, keeps char = true) :
    percentEncode keeps text = text := by
  have same : ∀ chars : List Char, (∀ char ∈ chars, keeps char = true) →
      chars.flatMap (percentChar keeps) = chars := by
    intro chars allKept
    induction chars with
    | nil => rfl
    | cons char chars inductionHypothesis =>
        rw [List.forall_mem_cons] at allKept
        rw [List.flatMap_cons, percentChar, if_pos allKept.1,
          inductionHypothesis allKept.2]
        rfl
  rw [percentEncode, same text.toList kept, String.ofList_toList]

/-- A token has no character that is escaped. -/
theorem encodeURIComponent_rawToken (bytes : List UInt8) :
    encodeURIComponent (rawToken bytes) = rawToken bytes := by
  apply percentEncode_of_kept
  intro char present
  rw [rawToken, String.toList_ofList] at present
  rcases Base64.mem_of_mem_encode Base64.url present with
    isDigit | ⟨missing, isPadding⟩
  · have all : Base64.url.digits.all keptByEncodeURIComponent = true := by
      decide +kernel
    exact List.all_eq_true.mp all char isDigit
  · exact absurd isPadding List.not_mem_nil

/-- The part of a link after the number sign. -/
def resetFragment (email raw : String) : String :=
  FormEncoding.serialize keptByEncodeURIComponent
    [("email", email), ("token", raw)]

theorem resetLink_eq (baseUrl email : String) (bytes : List UInt8) :
    resetLink baseUrl email (rawToken bytes) =
      baseUrl ++ "/reset-password#" ++ resetFragment email (rawToken bytes) := by
  have emailKept : percentEncode keptByEncodeURIComponent "email" = "email" :=
    percentEncode_of_kept (List.all_eq_true.mp (by decide +kernel))
  have tokenKept : percentEncode keptByEncodeURIComponent "token" = "token" :=
    percentEncode_of_kept (List.all_eq_true.mp (by decide +kernel))
  have raw := encodeURIComponent_rawToken bytes
  rw [encodeURIComponent] at raw
  simp only [resetLink, resetFragment, FormEncoding.serialize,
    FormEncoding.written, emailKept, tokenKept, raw, encodeURIComponent]
  simp only [← String.toList_inj, String.toList_append, List.append_assoc]
  rfl

/-- The address bar keeps the fragment. -/
theorem percentEncode_resetFragment (email : String) (bytes : List UInt8) :
    percentEncode keptInFragment (resetFragment email (rawToken bytes)) =
      resetFragment email (rawToken bytes) := by
  apply percentEncode_of_kept
  intro char present
  rcases FormEncoding.mem_serialize_cases present with
    rfl | rfl | ⟨text, encoded⟩
  · decide
  · decide
  · exact keptInFragment_of_mem encoded

/-- The fragment starts with the name of the address. -/
theorem resetFragment_cons (email raw : String) :
    ∃ rest, (resetFragment email raw).toList = 'e' :: rest := by
  have emailKept : percentEncode keptByEncodeURIComponent "email" = "email" :=
    percentEncode_of_kept (List.all_eq_true.mp (by decide +kernel))
  simp only [resetFragment, FormEncoding.serialize, FormEncoding.written,
    emailKept, String.toList_append, List.append_assoc]
  exact ⟨_, rfl⟩

/-- The address bar shows the fragment as it was mailed. -/
theorem locationHash_resetLink
    {baseUrl : String}
    (noFragment : '#' ∉ baseUrl.toList)
    (email : String)
    (bytes : List UInt8) :
    locationHash (resetLink baseUrl email (rawToken bytes)) =
      "#" ++ resetFragment email (rawToken bytes) := by
  have before : ∀ char ∈ (baseUrl ++ "/reset-password").toList,
      decide (char ≠ '#') = true := by
    intro char present
    rw [String.toList_append] at present
    apply decide_eq_true
    rintro rfl
    rcases List.mem_append.mp present with isBase | isPath
    · exact noFragment isBase
    · exact absurd isPath (by decide +kernel)
  have chars : (resetLink baseUrl email (rawToken bytes)).toList =
      (baseUrl ++ "/reset-password").toList ++
        '#' :: (resetFragment email (rawToken bytes)).toList := by
    rw [resetLink_eq]
    simp only [String.toList_append, List.append_assoc]
    rfl
  obtain ⟨rest, fragment⟩ := resetFragment_cons email (rawToken bytes)
  rw [locationHash, chars, List.dropWhile_append_of_pos before,
    List.dropWhile_cons_of_neg (by decide), fragment]
  dsimp only
  rw [← fragment, String.ofList_toList, percentEncode_resetFragment]

/-- The page reads the address and the token that were mailed, whatever the query
of the link says. -/
theorem parseResetLink_resetLink
    {baseUrl : String}
    (noFragment : '#' ∉ baseUrl.toList)
    {email : String}
    (isGiven : email ≠ "")
    {bytes : List UInt8}
    (drawn : bytes ≠ [])
    (fallback : ResetFallback) :
    parseResetLink
        (locationHash (resetLink baseUrl email (rawToken bytes))) fallback =
      some ⟨email, rawToken bytes⟩ := by
  obtain ⟨rest, fragment⟩ := resetFragment_cons email (rawToken bytes)
  have hash : without '?' (without '#'
      ("#" ++ resetFragment email (rawToken bytes))) =
        resetFragment email (rawToken bytes) := by
    have noSign : without '#' ("#" ++ resetFragment email (rawToken bytes)) =
        resetFragment email (rawToken bytes) := by
      rw [without, String.toList_append]
      exact String.ofList_toList
    rw [noSign, without, fragment]
    rfl
  have isToken : rawToken bytes ≠ "" := by
    intro isEmpty
    have noChars : Base64.encode Base64.url bytes = [] := by
      have chars := congrArg String.toList isEmpty
      rw [rawToken, String.toList_ofList] at chars
      exact chars
    have back := Base64.decode_encode Base64.url_readable bytes
    rw [noChars] at back
    exact drawn back.symm
  rw [locationHash_resetLink noFragment, parseResetLink, hash, resetFragment,
    FormEncoding.parse_serialize encodeURIComponent_safe]
  have first : FormEncoding.get [("email", email), ("token", rawToken bytes)]
      "email" = some email := rfl
  have second : FormEncoding.get [("email", email), ("token", rawToken bytes)]
      "token" = some (rawToken bytes) := rfl
  simp only [first, second, Option.some_or, Option.getD_some]
  rw [if_pos ⟨isGiven, isToken⟩]

/-- The token of the fragment wins over a token of the query. -/
theorem parseResetLink_resetLink_withQuery :
    parseResetLink
        (locationHash (resetLink "https://app.b.c" "ada+1@b.c"
          (rawToken [7, 8, 9])))
        ⟨some "eve@b.c", some "b2xkLXRva2Vu"⟩ =
      some ⟨"ada+1@b.c", "BwgJ"⟩ := by
  have token : rawToken [7, 8, 9] = "BwgJ" := by decide +kernel
  rw [← token]
  exact parseResetLink_resetLink (by decide +kernel) (by decide)
    (List.cons_ne_nil 7 [8, 9]) ⟨some "eve@b.c", some "b2xkLXRva2Vu"⟩

end Template
end EvoPlatform
