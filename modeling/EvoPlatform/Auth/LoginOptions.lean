import EvoPlatform.Auth.Passkeys

/-!
# Login options

What `login/options` answers about an address, and what of it everybody can
read.  An address without passkeys gets an answer that is derived from the
address; its challenge token carries a text in the place of a ciphertext, by
which it is told from the token of an account with passkeys.
-/

namespace EvoPlatform
namespace Auth

variable {τ : Type}

/-- A credential in the options of a ceremony. -/
structure CredentialDescriptor where
  id : String
  transports : Option (List String)
  deriving DecidableEq

/-- What `generateAuthenticationOptions` returns. -/
structure AuthenticationOptions where
  rpId : String
  challenge : String
  allowCredentials : List CredentialDescriptor
  timeout : Nat
  userVerification : String

/-- What `loginOptions` takes from its surroundings. -/
structure OptionsEnv (τ : Type) extends AuthEnv where
  keys : Keys τ
  secrets : Secrets
  /-- `createHmac('sha256', config.secretKey)`, digested. -/
  hmac : List UInt8 → List UInt8
  /-- From the rpID, the user verification, the credentials and the challenge
  that it draws. -/
  generateAuthenticationOptions :
    String → String → List CredentialDescriptor → String → AuthenticationOptions
  userVerification : String
  challengeTtlSec : Nat

/-- A request for options, and what its answer draws at random. -/
structure OptionsRequest where
  tenantSlug : Option String
  email : String
  rp : RpContext
  /-- The second of the request. -/
  now : Nat
  challenge : String
  iv : List UInt8

/-- What `loginOptions` returns. -/
structure LoginOptions (τ : Type) where
  options : AuthenticationOptions
  challengeToken : τ

/-! ## The answer -/

/-- `strToTransports`. -/
def strToTransports (env : AuthEnv) (raw : Option String) :
    Option (List String) :=
  (given raw).bind fun raw =>
    let parts := ((raw.toList.splitOn ',').map fun part =>
      env.trim (String.ofList part)).filter fun part => part ≠ ""
    if parts.isEmpty then none else some parts

namespace OptionsEnv

variable (env : OptionsEnv τ)

/-- `decoyCredentials`. -/
def decoyCredentials (tenantSlug : Option String) (email : String) :
    List CredentialDescriptor :=
  let seed := env.hmac (Utf8.encode ("webauthn_decoy:" ++
    tenantSlug.getD "" ++ ":" ++ env.toLowerCase (env.trim email)))
  let count := (seed.headD 0).toNat % 3 + 1
  (List.range count).map fun index =>
    { id := String.ofList ((Base64.encode Base64.url
        (env.hmac (seed ++ Utf8.encode (toString index)))).take 43)
      transports := none }

/-- `findLoginUser`. -/
def findLoginUser (accounts : Accounts) (request : OptionsRequest) :
    Option User :=
  match given request.tenantSlug with
  | some slug => (accounts.findTenant slug).bind fun tenant =>
      accounts.findUser (some tenant.id) (env.toLowerCase request.email)
  | none => accounts.findUser none (env.toLowerCase request.email)

/-- The passkeys of the account that a request names. -/
def credentialsFor (db : PasskeyDb) (request : OptionsRequest) :
    List PasskeyCredential :=
  match env.findLoginUser db.auth.accounts request with
  | none => []
  | some user => db.credentials.rows.filter fun credential =>
      credential.userId = user.id

/-- The answer to an address without passkeys. -/
def decoyOptions (request : OptionsRequest) : LoginOptions τ :=
  let options := env.generateAuthenticationOptions request.rp.rpId
    env.userVerification
    (env.decoyCredentials request.tenantSlug request.email) request.challenge
  { options := options
    challengeToken := env.keys.signClaims
      (Mint.decoyOptions options.challenge request.rp).claims
      env.challengeTtlSec request.now }

/-- The answer to an account with passkeys. -/
def knownOptions (user : User) (creds : List PasskeyCredential)
    (request : OptionsRequest) : LoginOptions τ :=
  let options := env.generateAuthenticationOptions request.rp.rpId
    env.userVerification
    (creds.map fun credential =>
      ⟨credential.credentialId,
        strToTransports env.toAuthEnv credential.transports⟩)
    request.challenge
  { options := options
    challengeToken := env.keys.signClaims
      (Mint.loginOptions (encryptSecret env.secrets request.iv user.id)
        options.challenge request.rp).claims
      env.challengeTtlSec request.now }

/-- `loginOptions`. -/
def loginOptions (db : PasskeyDb) (request : OptionsRequest) : LoginOptions τ :=
  let creds := env.credentialsFor db request
  match env.findLoginUser db.auth.accounts request with
  | none => env.decoyOptions request
  | some user =>
      if creds.length = 0 then env.decoyOptions request
      else env.knownOptions user creds request

end OptionsEnv

/-! ## What everybody can read -/

/-- The names of the fields of a credential. -/
def CredentialDescriptor.fields (credential : CredentialDescriptor) :
    List String :=
  ["id", "type"] ++ if credential.transports.isSome then ["transports"] else []

/-- An answer without the values of what is random in it. -/
structure OptionsView where
  rpId : String
  userVerification : String
  /-- The fields present in each credential. -/
  credentials : List (List String)
  /-- The names of the claims in the challenge token. -/
  claims : List String
  /-- The user id in the challenge token has the form of a ciphertext. -/
  sealedUid : Bool
  deriving DecidableEq

/-- The claims in a token, which anyone can decode. -/
def decodedClaims (keys : Keys τ) (token : τ) : Claims :=
  ((keys.verify token).map Payload.claims).getD []

/-- A claim has the form of what `encryptSecret` returns. -/
def Json.isSealed : Json → Bool
  | .string text => Base64.isStandard text
  | _ => false

/-- What can be read of an answer. -/
def LoginOptions.view (keys : Keys τ) (answer : LoginOptions τ) :
    OptionsView where
  rpId := answer.options.rpId
  userVerification := answer.options.userVerification
  credentials := answer.options.allowCredentials.map
    CredentialDescriptor.fields
  claims := (decodedClaims keys answer.challengeToken).map Prod.fst
  sealedUid :=
    ((decodedClaims keys answer.challengeToken).get? "uid").any Json.isSealed

/-- What can be read of a sequence of answers: each of them, and which of them
name the same credentials. -/
structure Observation where
  answers : List OptionsView
  repeated : List (List Bool)
  deriving DecidableEq

/-- The observation of the answers to a sequence of requests. -/
def OptionsEnv.observe (env : OptionsEnv τ) (db : PasskeyDb)
    (requests : List OptionsRequest) : Observation :=
  let answers := requests.map (env.loginOptions db)
  { answers := answers.map (LoginOptions.view env.keys)
    repeated := answers.map fun left => answers.map fun right =>
      left.options.allowCredentials.map CredentialDescriptor.id =
        right.options.allowCredentials.map CredentialDescriptor.id }

/-! ## Accounts are told apart by their passkeys -/

section Observe

variable (env : OptionsEnv τ) {db : PasskeyDb} {request : OptionsRequest}

/-- An address without passkeys gets decoys. -/
theorem loginOptions_of_nil
    (withoutPasskeys : env.credentialsFor db request = []) :
    env.loginOptions db request = env.decoyOptions request := by
  simp only [OptionsEnv.loginOptions, withoutPasskeys, List.length_nil,
    if_true]
  split <;> rfl

theorem loginOptions_of_ne_nil
    (withPasskeys : env.credentialsFor db request ≠ []) :
    ∃ user, env.loginOptions db request =
      env.knownOptions user (env.credentialsFor db request) request := by
  cases found : env.findLoginUser db.auth.accounts request with
  | none => simp [OptionsEnv.credentialsFor, found] at withPasskeys
  | some user =>
      refine ⟨user, ?_⟩
      simp [OptionsEnv.loginOptions, found, withPasskeys]

theorem decodedClaims_signClaims
    (keys : Keys τ)
    (claims : Claims)
    (ttlSec now : Nat) :
    decodedClaims keys (keys.signClaims claims ttlSec now) = claims := by
  simp [decodedClaims, Keys.signClaims, keys.verify_sign]

/-- The token of an account with passkeys carries a ciphertext. -/
theorem sealedUid_knownOptions
    (user : User)
    (creds : List PasskeyCredential) :
    ((env.knownOptions user creds request).view env.keys).sealedUid = true := by
  simp only [LoginOptions.view, OptionsEnv.knownOptions,
    decodedClaims_signClaims]
  exact isStandard_encryptSecret _ _ _

/-- The token that comes with decoys carries none. -/
theorem sealedUid_decoyOptions :
    ((env.decoyOptions request).view env.keys).sealedUid = false := by
  simp only [LoginOptions.view, OptionsEnv.decoyOptions,
    decodedClaims_signClaims]
  have colon : ∀ challenge : String,
      Base64.isStandard ("decoy:" ++ challenge) = false := by
    intro challenge
    have notDigit : (Base64.standard.digits.contains ':' || ':' = '=') =
        false := by
      decide +kernel
    have present : ':' ∈ ("decoy:" ++ challenge).toList := by
      simp [String.toList_append]
    rw [Base64.isStandard, List.all_eq_false]
    exact ⟨':', present, by rw [notDigit]; simp⟩
  exact colon _

/-- Whatever the accounts and their passkeys: of two databases in the second of
which none of the requests names an account with passkeys, the answers to the
requests look alike exactly when none does so in the first. -/
theorem observe_eq_iff
    (known unknown : PasskeyDb)
    (requests : List OptionsRequest)
    (withoutPasskeys : ∀ request ∈ requests,
      env.credentialsFor unknown request = []) :
    env.observe known requests = env.observe unknown requests ↔
      ∀ request ∈ requests, env.credentialsFor known request = [] := by
  have decoys : requests.map (env.loginOptions unknown) =
      requests.map env.decoyOptions :=
    List.map_congr_left fun request present =>
      loginOptions_of_nil env (withoutPasskeys request present)
  constructor
  · intro alike request present
    by_contra withPasskeys
    obtain ⟨user, isKnown⟩ := loginOptions_of_ne_nil env withPasskeys
    have sameViews := congrArg Observation.answers alike
    simp only [OptionsEnv.observe, decoys, List.map_map] at sameViews
    have sameView := List.map_inj_left.mp sameViews request present
    simp only [Function.comp_apply, isKnown] at sameView
    have sameUid := congrArg OptionsView.sealedUid sameView
    rw [sealedUid_knownOptions, sealedUid_decoyOptions] at sameUid
    contradiction
  · intro without
    have same : requests.map (env.loginOptions known) =
        requests.map env.decoyOptions :=
      List.map_congr_left fun request present =>
        loginOptions_of_nil env (without request present)
    simp only [OptionsEnv.observe, same, decoys]

end Observe

/-! ## One account -/

/-- Surroundings in which nothing is encrypted, only encoded. -/
def optionsEnv : OptionsEnv Payload where
  toAuthEnv := plainEnv
  keys := plainKeys
  secrets := plainSecrets
  hmac := id
  generateAuthenticationOptions := fun rpId userVerification allowed challenge =>
    ⟨rpId, challenge, allowed, 60000, userVerification⟩
  userVerification := "required"
  challengeTtlSec := 300

/-- The user has one passkey, or none. -/
def passkeysOf (credentials : List PasskeyCredential)
    (keysNodup : (credentials.map PasskeyCredential.id).Nodup)
    (idsNodup : (credentials.filterMap fun credential =>
      some credential.credentialId).Nodup)
    (unused : ∀ credential ∈ credentials, credential.signCount = 0) :
    PasskeyDb where
  auth := demoSessions .empty
  credentials := ⟨credentials, keysNodup⟩
  credentialIdUnique := Table.unique_of_nodup idsNodup
  countersFit := by
    intro credential present
    simp [unused credential present, FitsInteger]

def enrolledPasskey : PasskeyDb :=
  passkeysOf [⟨"p1", "u1", "Y3JlZA", "key", 0, none, none⟩] (by simp) (by simp)
    (by simp)

def noPasskey : PasskeyDb := passkeysOf [] (by simp) (by simp) (by simp)

/-- A request about an address. -/
def optionsRequest (email : String) : OptionsRequest :=
  ⟨none, email, ⟨"a.co", "https://a.co"⟩, 1, "c", [0]⟩

/-- Two requests about an address without an account look alike. -/
theorem observe_eq_iff_stranger :
    optionsEnv.observe enrolledPasskey
        [optionsRequest "x@b.co", optionsRequest "x@b.co"] =
      optionsEnv.observe noPasskey
        [optionsRequest "x@b.co", optionsRequest "x@b.co"] := by
  refine (observe_eq_iff optionsEnv enrolledPasskey noPasskey
    [optionsRequest "x@b.co", optionsRequest "x@b.co"] ?_).mpr ?_
  · decide +kernel
  · decide +kernel

/-- The answer about the user has the same fields with and without a passkey,
but for the form of the user id in the token. -/
theorem passkey_readFromToken :
    (optionsEnv.observe enrolledPasskey [optionsRequest "a@b.co"]).answers.map
        (fun view => (view.credentials, view.claims, view.sealedUid)) =
      [([["id", "type"]],
        ["purpose", "uid", "challenge", "rp_id", "origin"], true)] ∧
    (optionsEnv.observe noPasskey [optionsRequest "a@b.co"]).answers.map
        (fun view => (view.claims, view.sealedUid)) =
      [(["purpose", "uid", "challenge", "rp_id", "origin"], false)] ∧
    optionsEnv.observe enrolledPasskey [optionsRequest "a@b.co"] ≠
      optionsEnv.observe noPasskey [optionsRequest "a@b.co"] := by
  decide +kernel

end Auth
end EvoPlatform
