import EvoPlatform.Auth.Calls

/-!
# Signed tokens and their purposes

One key signs access tokens and tokens for a single purpose.  What tells them
apart is a claim, which each consumer checks in its own way.  Times are in
seconds.
-/

namespace EvoPlatform
namespace Auth

/-- A JSON value, as far as claims go. -/
inductive Json
  | null
  | bool (value : Bool)
  | string (value : String)
  | strings (values : List String)
  deriving DecidableEq

/-- Does a value pass a test for truth? -/
def Json.truthy : Json → Bool
  | .null => false
  | .bool value => value
  | .string value => value ≠ ""
  | .strings _ => true

/-- `String(value)`. -/
def Json.text : Json → String
  | .null => "null"
  | .bool value => if value then "true" else "false"
  | .string value => value
  | .strings values => ",".intercalate values

/-- The claims of a token, by name. -/
abbrev Claims := List (String × Json)

/-- A claim, which is undefined when it is missing. -/
def Claims.get? (claims : Claims) (name : String) : Option Json :=
  (claims.find? fun claim => claim.1 = name).map Prod.snd

/-- The claim is a string, and not empty. -/
def Claims.givenString? (claims : Claims) (name : String) : Option String :=
  match claims.get? name with
  | some (.string text) => given (some text)
  | _ => none

/-- What is signed. -/
structure Payload where
  kid : String
  claims : Claims
  exp : Nat
  iss : String

/-- `jsonwebtoken` with RS256 and the key pair of the platform, on tokens of
some type. -/
structure JwtLibrary (τ : Type) where
  sign : Payload → τ
  /-- The payload of a token with a valid signature. -/
  verify : τ → Option Payload
  verify_sign : ∀ payload, verify (sign payload) = some payload

/-- `KeysService`. -/
structure Keys (τ : Type) extends JwtLibrary τ where
  kid : String
  /-- `config.jwtIssuer`. -/
  issuer : String

variable {τ : Type}

/-- `jwt.verify`, with the times and the issuer checked. -/
def JwtLibrary.verifyFor (library : JwtLibrary τ) (issuer : String) (token : τ)
    (now : Nat) : Option Payload :=
  (library.verify token).filter fun payload =>
    payload.iss = issuer && now < payload.exp

namespace Keys

variable (keys : Keys τ)

/-- `KeysService.sign`. -/
def signClaims (claims : Claims) (ttlSec now : Nat) : τ :=
  keys.sign ⟨keys.kid, claims, now + ttlSec, keys.issuer⟩

/-- `KeysService.verify`. -/
def verifyClaims (token : τ) (now : Nat) : Option Claims :=
  (keys.verifyFor keys.issuer token now).map Payload.claims

end Keys

/-! ## Who signs -/

/-- Where a passkey ceremony takes place. -/
structure RpContext where
  rpId : String
  origin : String

/-- The claims that `issueTokens` signs. -/
def AccessClaims.claims (access : AccessClaims) : Claims :=
  [("sub", .string access.sub),
    ("email", .string access.email),
    ("tenant_id", (access.tenantId.map Json.string).getD .null),
    ("tenant_slug", (access.tenantSlug.map Json.string).getD .null),
    ("roles", .strings access.roles),
    ("app", (access.app.map Json.string).getD .null),
    ("platform_admin", .bool access.platformAdmin),
    ("tenant_admin", .bool access.tenantAdmin)]

/-- The claims of `challengeToken`; the user id is encrypted. -/
def challengeClaims (purpose uid challenge : String) (rp : RpContext) :
    Claims :=
  [("purpose", .string purpose),
    ("uid", .string uid),
    ("challenge", .string challenge),
    ("rp_id", .string rp.rpId),
    ("origin", .string rp.origin)]

/-- The calls of `KeysService.sign`, with what they are given. -/
inductive Mint
  /-- With the access token of a session. -/
  | issueTokens (access : AccessClaims)
  | sendVerification (userId : String)
  | issueSignupLink
  | registrationOptions (uid challenge : String) (rp : RpContext)
  | loginOptions (uid challenge : String) (rp : RpContext)
  /-- For an account without passkeys, or none at all. -/
  | decoyOptions (challenge : String) (rp : RpContext)

namespace Mint

/-- What the call passes. -/
def claims : Mint → Claims
  | .issueTokens access => access.claims
  | .sendVerification userId =>
      [("purpose", .string "email_verify"), ("sub", .string userId)]
  | .issueSignupLink => [("purpose", .string "signup_link")]
  | .registrationOptions uid challenge rp =>
      challengeClaims "webauthn_reg" uid challenge rp
  | .loginOptions uid challenge rp =>
      challengeClaims "webauthn_auth" uid challenge rp
  | .decoyOptions challenge rp =>
      challengeClaims "webauthn_auth" ("decoy:" ++ challenge) challenge rp

/-- What the token is for; an access token has no single purpose. -/
def purpose : Mint → Option String
  | .issueTokens _ => none
  | .sendVerification _ => some "email_verify"
  | .issueSignupLink => some "signup_link"
  | .registrationOptions .. => some "webauthn_reg"
  | .loginOptions .. | .decoyOptions .. => some "webauthn_auth"

end Mint

/-! ## Who verifies -/

/-- `JwtAuthGuard.canActivate`, with the token that follows `Bearer`. -/
def jwtAuthGuard (keys : Keys τ) (bearer : Option τ) (now : Nat) :
    Except AuthError Claims :=
  match bearer with
  | none => .error (.unauthorized "Missing bearer token")
  | some token =>
      match keys.verifyClaims token now with
      | none => .error (.unauthorized "Invalid or expired token")
      | some claims =>
          if (claims.get? "purpose").any Json.truthy then
            .error (.unauthorized "Invalid or expired token")
          else .ok claims

/-- What the SDK throws. -/
inductive SdkError
  | token (message : String)
  | config (message : String)

/-- A client of the SDK. -/
structure EvoClient where
  issuer : String
  clientId : Option String
  /-- The key ids in the JWKS of the platform. -/
  kids : List String

/-- `verifyToken`, with the platform's public key under each key id. -/
def EvoClient.verifyToken (client : EvoClient) (library : JwtLibrary τ)
    (token : τ) (audience : Bool) (now : Nat) : Except SdkError Claims :=
  match library.verifyFor client.issuer token now with
  | none => .error (.token "Token verification failed")
  | some payload =>
      if payload.kid ∉ client.kids then
        .error (.token "Token verification failed")
      else
        match payload.claims.get? "purpose" with
        | some purpose =>
            .error (.token ("Token is a single-purpose \"" ++ purpose.text ++
              "\" token, not an access token"))
        | none =>
            if audience then
              match given client.clientId with
              | none =>
                  .error (.config
                    "verifyToken requires clientId so the token can be bound to this app. Pass clientId to the constructor, or verifyToken(token, \x7b audience: false \x7d) to deliberately accept tokens minted for any app.")
              | some clientId =>
                  let app := payload.claims.get? "app"
                  if app ≠ some (.string clientId) then
                    .error (.token ("Token was issued for app \"" ++
                      (match app with
                        | none | some .null => "none"
                        | some other => other.text) ++
                      "\", not \"" ++ clientId ++ "\""))
                  else .ok payload.claims
            else .ok payload.claims

/-- `confirmVerification`, for a call that has the database to itself; it
answers with the accounts as it leaves them. -/
def confirmVerification (keys : Keys τ) (accounts : Accounts) (token : τ)
    (now : Nat) : Except AuthError Accounts :=
  let invalid := AuthError.badRequest "Invalid or expired link"
  match keys.verifyClaims token now with
  | none => .error invalid
  | some claims =>
      match claims.get? "purpose", claims.get? "sub" with
      | some (.string "email_verify"), some (.string userId) =>
          match accounts.users.find? userId with
          | none => .error invalid
          | some user =>
              if user.deletedAt.isSome then .error invalid
              else if user.emailVerifiedAt.isSome then .ok accounts
              else
                match accounts.updateUser userId fun stored =>
                    { stored with emailVerifiedAt := some now } with
                | none => .error .internal
                | some verified => .ok verified
      | _, _ => .error invalid

/-- `config.signup.mode`. -/
inductive SignupMode
  | closed
  | invite
  | opened

/-- `assertSignupAllowed`; an empty token counts as missing. -/
def assertSignupAllowed (keys : Keys τ) (mode : SignupMode)
    (inviteToken : Option τ) (now : Nat) : Except AuthError Unit :=
  match mode with
  | .opened => .ok ()
  | .invite =>
      match inviteToken with
      | none => .error (.forbidden "Signups are by invitation")
      | some token =>
          if (keys.verifyClaims token now).any fun claims =>
              claims.get? "purpose" = some (.string "signup_link") then
            .ok ()
          else
            .error (.forbidden "Signup link is invalid or has expired")
  | .closed => .error (.forbidden "Signups are closed")

/-- What a challenge token carries, its user id decrypted. -/
structure Ticket where
  uid : String
  challenge : String
  rpId : String
  origin : String

/-- `readChallengeToken`. -/
def readChallengeToken (keys : Keys τ) (decryptSecret : String → Option String)
    (token : τ) (purpose : String) (now : Nat) : Except AuthError Ticket :=
  let expired := AuthError.unauthorized "Passkey ceremony expired — try again"
  match keys.verifyClaims token now with
  | none => .error expired
  | some claims =>
      if claims.get? "purpose" ≠ some (.string purpose) then .error expired
      else
        match claims.givenString? "uid", claims.givenString? "challenge",
            claims.givenString? "rp_id", claims.givenString? "origin" with
        | some sealedUid, some challenge, some rpId, some origin =>
            match decryptSecret sealedUid with
            | none => .error expired
            | some uid => .ok ⟨uid, challenge, rpId, origin⟩
        | _, _, _, _ => .error expired

/-! ## Purposes are kept apart -/

/-- Was the call successful? -/
def Succeeds {ε α : Type} (outcome : Except ε α) : Prop :=
  ∃ value, outcome = .ok value

section Purposes

variable (keys : Keys τ) (mint : Mint) (ttlSec issuedAt now : Nat)

/-- The claim that tells the tokens apart is that of the call that signs. -/
theorem Mint.get?_purpose :
    mint.claims.get? "purpose" = mint.purpose.map Json.string := by
  cases mint <;> rfl

theorem Mint.isAccess
    (unmarked : mint.purpose = none) :
    ∃ access, mint = .issueTokens access := by
  cases mint with
  | issueTokens access => exact ⟨access, rfl⟩
  | _ => contradiction

theorem AccessClaims.app_of_claims
    (access : AccessClaims)
    {clientId : String}
    (sameApp : access.claims.get? "app" = some (.string clientId)) :
    access.app = some clientId := by
  have isApp : access.claims.get? "app" =
      some ((access.app.map Json.string).getD .null) :=
    rfl
  rw [isApp] at sameApp
  cases app : access.app with
  | none => simp [app] at sameApp
  | some other => simpa [app] using sameApp

/-- A verified token has the claims that were signed. -/
theorem Keys.verifyFor_signClaims
    {issuer : String}
    {claims : Claims}
    {payload : Payload}
    (verified : keys.verifyFor issuer (keys.signClaims claims ttlSec issuedAt)
      now = some payload) :
    payload.claims = claims := by
  simp only [JwtLibrary.verifyFor, Keys.signClaims, keys.verify_sign,
    Option.filter_eq_some_iff] at verified
  obtain ⟨isPayload, _⟩ := verified
  rw [← Option.some.inj isPayload]

theorem Keys.verifyClaims_signClaims
    {claims verified : Claims}
    (isVerified : keys.verifyClaims (keys.signClaims claims ttlSec issuedAt)
      now = some verified) :
    verified = claims := by
  simp only [Keys.verifyClaims, Option.map_eq_some_iff] at isVerified
  obtain ⟨payload, isPayload, rfl⟩ := isVerified
  exact keys.verifyFor_signClaims ttlSec issuedAt now isPayload

/-- The guard of the platform accepts access tokens only. -/
theorem jwtAuthGuard_succeeds
    (accepted : Succeeds (jwtAuthGuard keys
      (some (keys.signClaims mint.claims ttlSec issuedAt)) now)) :
    mint.purpose = none := by
  obtain ⟨value, accepted⟩ := accepted
  simp only [jwtAuthGuard] at accepted
  split at accepted
  · contradiction
  · rename_i claims verified
    split at accepted
    · contradiction
    · rename_i unmarked
      rw [keys.verifyClaims_signClaims ttlSec issuedAt now verified,
        mint.get?_purpose] at unmarked
      cases mint <;> first | rfl | simp [Mint.purpose, Json.truthy] at unmarked

/-- The SDK accepts access tokens only. -/
theorem verifyToken_succeeds
    (client : EvoClient)
    (audience : Bool)
    (accepted : Succeeds (client.verifyToken keys.toJwtLibrary
      (keys.signClaims mint.claims ttlSec issuedAt) audience now)) :
    mint.purpose = none := by
  obtain ⟨value, accepted⟩ := accepted
  simp only [EvoClient.verifyToken] at accepted
  split at accepted
  · contradiction
  · rename_i payload verified
    split at accepted
    · contradiction
    · split at accepted
      · contradiction
      · rename_i unmarked
        rw [keys.verifyFor_signClaims ttlSec issuedAt now verified,
          mint.get?_purpose] at unmarked
        exact Option.map_eq_none_iff.mp unmarked

/-- By default, the SDK accepts tokens for its own app only. -/
theorem verifyToken_audience
    (client : EvoClient)
    (accepted : Succeeds (client.verifyToken keys.toJwtLibrary
      (keys.signClaims mint.claims ttlSec issuedAt) true now)) :
    ∃ clientId, client.clientId = some clientId ∧
      mint.claims.get? "app" = some (.string clientId) := by
  obtain ⟨value, accepted⟩ := accepted
  simp only [EvoClient.verifyToken, if_true] at accepted
  split at accepted
  · contradiction
  · rename_i payload verified
    rw [keys.verifyFor_signClaims ttlSec issuedAt now verified] at accepted
    split at accepted
    · contradiction
    · split at accepted
      · contradiction
      · split at accepted
        · contradiction
        · rename_i clientId isGiven
          split at accepted
          · contradiction
          · rename_i sameApp
            simp only [given, Option.filter_eq_some_iff] at isGiven
            exact ⟨clientId, isGiven.1, not_not.mp sameApp⟩

theorem confirmVerification_succeeds
    (accounts : Accounts)
    (accepted : Succeeds (confirmVerification keys accounts
      (keys.signClaims mint.claims ttlSec issuedAt) now)) :
    mint.purpose = some "email_verify" := by
  obtain ⟨value, accepted⟩ := accepted
  simp only [confirmVerification] at accepted
  split at accepted
  · contradiction
  · rename_i claims verified
    rw [keys.verifyClaims_signClaims ttlSec issuedAt now verified] at accepted
    split at accepted
    · rename_i marked _
      rw [mint.get?_purpose, Option.map_eq_some_iff] at marked
      obtain ⟨purpose, isPurpose, same⟩ := marked
      rw [isPurpose, Json.string.inj same]
    · contradiction

/-- A token opens a signup that is refused without one. -/
theorem assertSignupAllowed_succeeds
    (mode : SignupMode)
    (refused : ¬ Succeeds (assertSignupAllowed keys mode none now))
    (accepted : Succeeds (assertSignupAllowed keys mode
      (some (keys.signClaims mint.claims ttlSec issuedAt)) now)) :
    mint.purpose = some "signup_link" := by
  obtain ⟨value, accepted⟩ := accepted
  cases mode with
  | closed => contradiction
  | opened => exact absurd ⟨(), rfl⟩ refused
  | invite =>
      simp only [assertSignupAllowed] at accepted
      split at accepted
      · rename_i marked
        obtain ⟨claims, verified, marked⟩ := (Option.any_eq_true _ _).mp marked
        rw [keys.verifyClaims_signClaims ttlSec issuedAt now verified,
          decide_eq_true_eq, mint.get?_purpose,
          Option.map_eq_some_iff] at marked
        obtain ⟨purpose, isPurpose, same⟩ := marked
        rw [isPurpose, Json.string.inj same]
      · contradiction

theorem readChallengeToken_succeeds
    (decryptSecret : String → Option String)
    (purpose : String)
    (accepted : Succeeds (readChallengeToken keys decryptSecret
      (keys.signClaims mint.claims ttlSec issuedAt) purpose now)) :
    mint.purpose = some purpose := by
  obtain ⟨value, accepted⟩ := accepted
  simp only [readChallengeToken] at accepted
  split at accepted
  · contradiction
  · rename_i claims verified
    rw [keys.verifyClaims_signClaims ttlSec issuedAt now verified] at accepted
    split at accepted
    · contradiction
    · rename_i marked
      rw [not_not, mint.get?_purpose, Option.map_eq_some_iff] at marked
      obtain ⟨signed, isPurpose, same⟩ := marked
      rw [isPurpose, Json.string.inj same]

/-- Whatever is signed: the guard of the platform and the SDK accept it only
when `issueTokens` has signed it, the SDK by default only for its own app, and
every other consumer only when it was signed for exactly its purpose. -/
theorem purposes_separated :
    (Succeeds (jwtAuthGuard keys
        (some (keys.signClaims mint.claims ttlSec issuedAt)) now) →
      ∃ access, mint = .issueTokens access) ∧
    (∀ (client : EvoClient) (audience : Bool),
      Succeeds (client.verifyToken keys.toJwtLibrary
        (keys.signClaims mint.claims ttlSec issuedAt) audience now) →
      ∃ access, mint = .issueTokens access ∧
        (audience = true → client.clientId ≠ none ∧
          access.app = client.clientId)) ∧
    (∀ accounts, Succeeds (confirmVerification keys accounts
        (keys.signClaims mint.claims ttlSec issuedAt) now) →
      mint.purpose = some "email_verify") ∧
    (∀ mode, ¬ Succeeds (assertSignupAllowed keys mode none now) →
      Succeeds (assertSignupAllowed keys mode
        (some (keys.signClaims mint.claims ttlSec issuedAt)) now) →
      mint.purpose = some "signup_link") ∧
    ∀ (decryptSecret : String → Option String) (purpose : String),
      Succeeds (readChallengeToken keys decryptSecret
        (keys.signClaims mint.claims ttlSec issuedAt) purpose now) →
      mint.purpose = some purpose := by
  refine ⟨?_, ?_, ?_, ?_, ?_⟩
  · intro accepted
    exact mint.isAccess
      (jwtAuthGuard_succeeds keys mint ttlSec issuedAt now accepted)
  · intro client audience accepted
    obtain ⟨access, rfl⟩ := mint.isAccess
      (verifyToken_succeeds keys mint ttlSec issuedAt now client audience
        accepted)
    refine ⟨access, rfl, ?_⟩
    rintro rfl
    obtain ⟨clientId, isClient, sameApp⟩ :=
      verifyToken_audience keys _ ttlSec issuedAt now client accepted
    rw [isClient]
    exact ⟨by simp, access.app_of_claims sameApp⟩
  · intro accounts
    exact confirmVerification_succeeds keys mint ttlSec issuedAt now accounts
  · intro mode
    exact assertSignupAllowed_succeeds keys mint ttlSec issuedAt now mode
  · intro decryptSecret purpose
    exact readChallengeToken_succeeds keys mint ttlSec issuedAt now
      decryptSecret purpose

end Purposes

/-- Keys under which a token is what was signed. -/
def plainKeys : Keys Payload where
  sign := id
  verify := some
  verify_sign := fun _ => rfl
  kid := "k"
  issuer := "evoplatform"

/-- A token for login options is of use to `readChallengeToken` alone. -/
example :
    let token := plainKeys.signClaims
      (Mint.loginOptions "sealed" "c" ⟨"a.co", "https://a.co"⟩).claims 300 0
    (readChallengeToken plainKeys some token "webauthn_auth" 10).isOk = true ∧
      (readChallengeToken plainKeys some token "webauthn_reg" 10).isOk = false ∧
      (jwtAuthGuard plainKeys (some token) 10).isOk = false := by
  decide

end Auth
end EvoPlatform
