import EvoPlatform.Auth.SignedTokens
import EvoPlatform.Auth.Sessions
import EvoPlatform.Foundation.Columns
import EvoPlatform.Foundation.Secrets

/-!
# Signing in with a passkey

`PasskeysController.loginVerify`, one database statement at a time: the
ceremony is verified against the stored credential, whose counter is then
overwritten, and the account passes the gate that every login passes.
-/

namespace EvoPlatform
namespace Auth

/-- A row of the `passkey_credentials` table. -/
structure PasskeyCredential where
  id : String
  userId : String
  credentialId : String
  publicKey : String
  signCount : Nat
  transports : Option String
  lastUsedAt : Option Nat
  deriving DecidableEq

/-- What an authenticator answers to a challenge. -/
structure Assertion where
  /-- The id of the credential. -/
  id : String
  response : String
  deriving DecidableEq

/-- What the passkey service takes from its surroundings. -/
structure PasskeyEnv (τ : Type) extends AuthEnv where
  keys : Keys τ
  secrets : Secrets
  /-- `verifyAuthenticationResponse`, which answers with the new counter. -/
  verifyAuthenticationResponse :
    Assertion → Ticket → PasskeyCredential → Option Nat

/-- The database with the `passkey_credentials` table. -/
structure PasskeyDb where
  auth : AuthDb
  credentials : Table PasskeyCredential.id
  credentialIdUnique : credentials.Unique fun credential =>
    some credential.credentialId
  /-- The counter is an `INTEGER` column. -/
  countersFit : credentials.Every fun credential =>
    FitsInteger credential.signCount

namespace PasskeyDb

theorem credentialIdUnique_empty :
    (Table.empty : Table PasskeyCredential.id).Unique
      fun credential => some credential.credentialId :=
  Table.unique_empty _

theorem countersFit_empty :
    (Table.empty : Table PasskeyCredential.id).Every
      fun credential => FitsInteger credential.signCount :=
  Table.every_empty _

variable (db : PasskeyDb)

/-- `passkeyCredential.findFirst` by credential id and user. -/
def findCredential (credentialId userId : String) : Option PasskeyCredential :=
  db.credentials.rows.find? fun credential =>
    credential.credentialId = credentialId && credential.userId = userId

/-- `passkeyCredential.update` of the counter by id, which throws when there is
no such row or the column cannot hold the counter. -/
def useCredential (id : String) (newCounter now : Nat) : Option PasskeyDb :=
  match found : db.credentials.find? id with
  | none => none
  | some credential =>
      if fits : FitsInteger newCounter then
        some
          { db with
            credentials := db.credentials.put
              { credential with
                signCount := newCounter
                lastUsedAt := some now }
            credentialIdUnique := db.credentialIdUnique.put _
              (db.credentialIdUnique.not_heldElsewhere
                (db.credentials.mem_of_find? found) rfl rfl)
            countersFit := db.countersFit.put fits }
      else none

variable {db} {after : PasskeyDb} {id : String} {newCounter now : Nat}

/-- The row of a used credential, before and after. -/
theorem of_useCredential
    (used : db.useCredential id newCounter now = some after) :
    ∃ stored ∈ db.credentials.rows, stored.id = id ∧
      after.credentials = db.credentials.put
        { stored with signCount := newCounter, lastUsedAt := some now } ∧
      after.auth = db.auth := by
  unfold useCredential at used
  split at used
  · contradiction
  · rename_i stored found
    split at used
    · obtain rfl := Option.some.inj used
      exact ⟨stored, db.credentials.mem_of_find? found,
        db.credentials.key_of_find? found, rfl, rfl⟩
    · contradiction

/-- Only credentials are written. -/
theorem auth_of_useCredential
    (used : db.useCredential id newCounter now = some after) :
    after.auth = db.auth := by
  obtain ⟨_, _, _, _, same⟩ := of_useCredential used
  exact same

/-- A stored credential can be used while its counter fits into the column. -/
theorem useCredential_isSome_iff
    (db : PasskeyDb)
    (newCounter now : Nat)
    {row : PasskeyCredential}
    (present : row ∈ db.credentials.rows) :
    (db.useCredential row.id newCounter now).isSome = true ↔
      newCounter < 2147483648 := by
  rw [← fitsInteger_natCast_iff]
  unfold useCredential
  split
  · rename_i absent
    rw [db.credentials.find?_of_mem present] at absent
    contradiction
  · split_ifs with fits
    · exact iff_of_true rfl fits
    · exact iff_of_false Bool.false_ne_true fits

end PasskeyDb

/-- The body of `login/verify`. -/
structure LoginVerify (τ : Type) where
  credential : Assertion
  challengeToken : τ
  clientId : Option String
  ip : Option String

variable {τ : Type}

/-- Where a call stands: the statement it sends next. -/
inductive PasskeyPhase (τ : Type)
  /-- `verifyLogin`. -/
  | findCredential (request : LoginVerify τ)
  | updateCredential (request : LoginVerify τ) (row : PasskeyCredential)
      (newCounter : Nat)
  /-- The user of the verified credential. -/
  | findVerified (request : LoginVerify τ) (userId : String)
  /-- `completeLogin`. -/
  | signIn (phase : Phase)

namespace PasskeyPhase

/-- The call throws. -/
def throws (error : AuthError) : PasskeyPhase τ := .signIn (.throws error)

/-- The ceremony was not verified. -/
def unverified : PasskeyPhase τ :=
  .throws (.unauthorized "Passkey sign-in could not be verified")

/-- Carry out the statement a call waits for, and go on to the next one. -/
def step (env : PasskeyEnv τ) (now : Nat) (fresh : Fresh) (db : PasskeyDb) :
    PasskeyPhase τ → PasskeyDb × PasskeyPhase τ
  | .findCredential request =>
      (db, match readChallengeToken env.keys (decryptSecret env.secrets)
          request.challengeToken "webauthn_auth" (now / 1000) with
        | .error error => .throws error
        | .ok ticket =>
            match db.findCredential request.credential.id ticket.uid with
            | none => .unverified
            | some row =>
                match env.verifyAuthenticationResponse request.credential
                    ticket row with
                | none => .unverified
                | some newCounter => .updateCredential request row newCounter)
  | .updateCredential request row newCounter =>
      match db.useCredential row.id newCounter now with
      | none => (db, .throws .internal)
      | some used => (used, .findVerified request row.userId)
  | .findVerified request userId =>
      (db, match db.auth.accounts.users.find? userId with
        | none =>
            .throws (.badRequest "Passkey sign-in could not be verified")
        | some user =>
            .signIn (completeLogin now user (db.auth.accounts.tenantOf user)
              request.clientId request.ip))
  | .signIn (.recordLogin grant ip session) =>
      ({ db with auth := db.auth.record ⟨"auth.login",
          grant.tenant.map Tenant.id, some grant.user.id, grant.clientId, ip,
          .method "passkey"⟩ },
        .signIn (.done (.ok (.session session))))
  | .signIn phase =>
      let stepped := phase.step env.toAuthEnv now fresh db.auth
      ({ db with auth := stepped.1 }, .signIn stepped.2)

end PasskeyPhase

/-- The sign-in of a device, with what it was asked. -/
structure PasskeyCall (τ : Type) where
  request : LoginVerify τ
  phase : PasskeyPhase τ

/-- The sign-ins as a program. -/
def passkeySignIns (env : PasskeyEnv τ) :
    Program PasskeyDb (LoginVerify τ) (Nat × Fresh) (PasskeyCall τ) where
  begins := fun request => ⟨request, .findCredential request⟩
  step := fun input db call =>
    let stepped := call.phase.step env input.1 input.2 db
    (stepped.1, { call with phase := stepped.2 })
  abandoned := fun call => { call with phase := .throws .internal }

/-! ## A small ceremony -/

/-- A cipher that leaves the bytes as they are, with an empty tag. -/
def plainSecrets : Secrets where
  aead :=
    { cipher := fun _ _ plain => plain
      authTag := fun _ _ _ => List.replicate 16 0
      decipher := fun _ _ tag ciphertext =>
        if tag = List.replicate 16 0 then some ciphertext else none
      tagLength := fun _ _ _ => rfl
      restored := fun _ _ _ _ => rfl }
  sha256 := id
  secretKey := ""

/-- An initialization vector. -/
def plainIv : List UInt8 := List.replicate 12 7

/-- Surroundings in which an assertion carries its counter as the length of its
response. -/
def lengthEnv : PasskeyEnv Payload where
  toAuthEnv := plainEnv
  keys := plainKeys
  secrets := plainSecrets
  verifyAuthenticationResponse := fun assertion _ row =>
    if row.signCount < assertion.response.length then
      some assertion.response.length
    else none

/-- An assertion of the passkey with the counter 5. -/
def assertionFive : LoginVerify Payload where
  credential := ⟨"cred", "-----"⟩
  challengeToken := plainKeys.signClaims
    (Mint.loginOptions (encryptSecret plainSecrets plainIv "u1") "c"
      ⟨"a.co", "https://a.co"⟩).claims 300 0
  clientId := none
  ip := none

end Auth
end EvoPlatform
