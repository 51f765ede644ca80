import EvoPlatform.Auth.LoginOptions
import EvoPlatform.Foundation.Origins

/-!
# Passkey ceremonies

`PasskeysService` and its controller, one database statement at a time: the two
requests by which a passkey is registered, the two by which its holder signs in,
and its removal.  A journal beside the calls notes which challenges were handed
out, which were answered, and what became of the rows.
-/

namespace EvoPlatform
namespace Auth

variable {τ : Type}

/-! ## Where a ceremony takes place -/

/-- The addresses of the machine itself. -/
def LOOPBACK_HOSTS : List String := ["localhost", "127.0.0.1", "::1", "[::1]"]

/-- `host.replace(/^\[|\]$/g, '')`. -/
def withoutBrackets (host : String) : String :=
  let opened := match host.toList with
    | '[' :: rest => rest
    | chars => chars
  String.ofList (match opened.reverse with
    | ']' :: rest => rest.reverse
    | _ => opened)

/-- The host is a base domain, or below one. -/
def isUnder (host base : String) : Bool :=
  host = base || ("." ++ base).toList.isSuffixOf host.toList

/-- `deriveRpContext`.  The parser has put the host in lower case. -/
def deriveRpContext (parse : String → Option UrlRecord)
    (baseDomains : List String) (originHeader : Option String) :
    Option RpContext :=
  (given originHeader).bind fun header =>
    match parse header with
    | none => none
    | some url =>
        if url.scheme ≠ "http" ∧ url.scheme ≠ "https" then none
        else
          let host := (url.host.map UrlHost.text).getD ""
          let origin := TupleOrigin.serialize (url.origin parse)
          if host ∈ LOOPBACK_HOSTS then some ⟨withoutBrackets host, origin⟩
          else (baseDomains.find? (isUnder host)).map fun base =>
            ⟨base, origin⟩

/-! ## Requests -/

/-- What an authenticator answers when it makes a credential. -/
structure Attestation where
  response : String
  transports : List String
  deriving DecidableEq

/-- `registrationInfo`, of a registration that was verified. -/
structure RegistrationInfo where
  id : String
  publicKey : String
  counter : Nat
  deriving DecidableEq

/-- What `generateRegistrationOptions` returns. -/
structure RegistrationOptions where
  rpName : String
  rpId : String
  userId : String
  userName : String
  userDisplayName : String
  userVerification : String
  excludeCredentials : List CredentialDescriptor
  challenge : String

/-- What the passkey service takes from its surroundings. -/
structure CeremonyEnv (τ : Type) extends PasskeyEnv τ, OptionsEnv τ where
  /-- `new URL`. -/
  parse : String → Option UrlRecord
  baseDomains : List String
  rpName : String
  /-- Around the challenge that it draws. -/
  generateRegistrationOptions : RegistrationOptions → RegistrationOptions
  verifyRegistrationResponse : Attestation → Ticket → Option RegistrationInfo

/-- The requests; those of an account carry the subject of its access token,
and those that begin a ceremony the header with the origin of the page. -/
inductive Ceremony (τ : Type)
  | registerOptions (userId : String) (origin : Option String)
  | registerVerify (userId : String) (credential : Attestation)
      (challengeToken : τ)
  | loginOptions (tenantSlug : Option String) (email : String)
      (origin : Option String)
  | loginVerify (request : LoginVerify τ)
  | remove (userId id : String)
  /-- What the other services make of the accounts; the passkeys of a purged
  account go with it. -/
  | elsewhere (change : AuthDb → AuthDb) (purged : PasskeyCredential → Bool)

inductive CeremonyAnswer (τ : Type)
  | registration (options : RegistrationOptions) (challengeToken : τ)
  | registered (row : PasskeyCredential)
  | login (answer : LoginOptions τ)
  | ok

/-- What a statement draws, and the clock. -/
structure CeremonyInput where
  now : Nat
  fresh : Fresh
  challenge : String
  iv : List UInt8

/-- Where a call stands: the statement it sends next. -/
inductive CeremonyPhase (τ : Type)
  /-- `requireUser` of `registrationOptions`. -/
  | findEnrolling (userId : String) (rp : RpContext)
  | findEnrolled (user : User) (rp : RpContext)
  /-- `requireUser` of `verifyRegistration`. -/
  | findRegistering (userId : String) (credential : Attestation)
      (challengeToken : τ)
  | createCredential (user : User) (credential : Attestation)
      (info : RegistrationInfo)
  | recordRegistered (user : User) (row : PasskeyCredential)
  /-- `findLoginUser` of `loginOptions`. -/
  | findLoginTenant (slug : String) (tenantSlug : Option String)
      (email : String) (rp : RpContext)
  | findLoginUser (tenantId tenantSlug : Option String) (email : String)
      (rp : RpContext)
  | findPasskeys (user : User) (tenantSlug : Option String) (email : String)
      (rp : RpContext)
  | deleteCredential (userId id : String)
  | recordDeleted (userId : String)
  | change (change : AuthDb → AuthDb) (purged : PasskeyCredential → Bool)
  /-- `verifyLogin`, and the sign-in behind it. -/
  | signIn (phase : PasskeyPhase τ)
  | done (outcome : Except AuthError (CeremonyAnswer τ))

/-- The call throws. -/
def CeremonyPhase.throws (error : AuthError) : CeremonyPhase τ :=
  .done (.error error)

/-! ## The statements -/

/-- `requireUser`. -/
def PasskeyDb.requireUser (db : PasskeyDb) (id : String) : Option User :=
  (db.auth.accounts.users.find? id).filter fun user => user.deletedAt.isNone

/-- `passkeyCredential.findMany` of a user. -/
def PasskeyDb.passkeysOf (db : PasskeyDb) (userId : String) :
    List PasskeyCredential :=
  db.credentials.rows.filter fun row => row.userId = userId

/-- `passkeyCredential.create`, refused when the id or the credential is taken,
the account is gone or the column cannot hold the counter. -/
def PasskeyDb.create (db : PasskeyDb) (row : PasskeyCredential) :
    Option PasskeyDb :=
  if (db.credentials.find? row.id).isSome ∨
      (db.auth.accounts.users.find? row.userId).isNone then none
  else if free : Table.HeldElsewhere
      (fun credential : PasskeyCredential => some credential.credentialId)
      db.credentials row then none
  else if fits : FitsInteger row.signCount then
    some { db with
      credentials := db.credentials.put row
      credentialIdUnique := db.credentialIdUnique.put row free
      countersFit := db.countersFit.put fits }
  else none

/-- `passkeyCredential.deleteMany`, and what goes with a purged account. -/
def PasskeyDb.deleteMany (db : PasskeyDb)
    (doomed : PasskeyCredential → Bool) : PasskeyDb :=
  { db with
    credentials := db.credentials.eraseWhere doomed
    credentialIdUnique := db.credentialIdUnique.eraseWhere doomed
    countersFit := db.countersFit.eraseWhere doomed }

/-- `transportsToStr`. -/
def transportsToStr (transports : List String) : Option String :=
  if transports = [] then none else some (",".intercalate transports)

/-- The row of a registration. -/
def RegistrationInfo.row (info : RegistrationInfo) (id userId : String)
    (transports : List String) : PasskeyCredential where
  id := id
  userId := userId
  credentialId := info.id
  publicKey := info.publicKey
  signCount := info.counter
  transports := transportsToStr transports
  lastUsedAt := none

namespace CeremonyEnv

variable (env : CeremonyEnv τ)

/-- `rpFromRequest`, of the origin that it made out. -/
def rpFromRequest (origin : Option String) : Option RpContext :=
  deriveRpContext env.parse env.baseDomains origin

def unrecognized : CeremonyPhase τ :=
  .throws (.forbidden "Unrecognized origin for passkey ceremony")

def expired : AuthError :=
  .unauthorized "Passkey ceremony expired — try again"

/-- The first statement of a call. -/
def begins : Ceremony τ → CeremonyPhase τ
  | .registerOptions userId origin =>
      match env.rpFromRequest origin with
      | none => unrecognized
      | some rp => .findEnrolling userId rp
  | .registerVerify userId credential challengeToken =>
      .findRegistering userId credential challengeToken
  | .loginOptions tenantSlug email origin =>
      match env.rpFromRequest origin with
      | none => unrecognized
      | some rp =>
          match given tenantSlug with
          | some slug => .findLoginTenant slug tenantSlug email rp
          | none => .findLoginUser none tenantSlug email rp
  | .loginVerify request => .signIn (.findCredential request)
  | .remove userId id => .deleteCredential userId id
  | .elsewhere change purged => .change change purged

/-- The options of a registration, around the challenge that is drawn. -/
def registrationOptions (user : User) (existing : List PasskeyCredential)
    (rp : RpContext) (challenge : String) : RegistrationOptions :=
  env.generateRegistrationOptions
    { rpName := env.rpName
      rpId := rp.rpId
      userId := user.id
      userName := user.email
      userDisplayName := (given user.name).getD user.email
      userVerification := env.userVerification
      excludeCredentials := existing.map fun credential =>
        ⟨credential.credentialId,
          strToTransports env.toAuthEnv credential.transports⟩
      challenge := challenge }

/-- The token that carries the challenge of a registration. -/
def registrationToken (userId challenge : String) (rp : RpContext)
    (input : CeremonyInput) : τ :=
  env.keys.signClaims
    (Mint.registrationOptions (encryptSecret env.secrets input.iv userId) challenge
      rp).claims env.challengeTtlSec (input.now / 1000)

/-- What `loginOptions` knows of its request and draws. -/
def loginRequest (tenantSlug : Option String) (email : String) (rp : RpContext)
    (input : CeremonyInput) : OptionsRequest where
  tenantSlug := tenantSlug
  email := email
  rp := rp
  now := input.now / 1000
  challenge := input.challenge
  iv := input.iv

/-- The checks of `verifyRegistration`, up to the row that it creates. -/
def checkRegistration (now : Nat) (db : PasskeyDb) (userId : String)
    (credential : Attestation) (challengeToken : τ) : CeremonyPhase τ :=
  match readChallengeToken env.keys (decryptSecret env.secrets) challengeToken
      "webauthn_reg" (now / 1000) with
  | .error error => .throws error
  | .ok ticket =>
      if ticket.uid ≠ userId then .throws expired
      else
        match db.requireUser userId with
        | none => .throws (.unauthorized "Invalid credentials")
        | some user =>
            match env.verifyRegistrationResponse credential ticket with
            | none => .throws
                (.badRequest "Passkey registration could not be verified")
            | some info => .createCredential user credential info

/-- Carry out the statement a call waits for, and go on to the next one. -/
def step (input : CeremonyInput) (db : PasskeyDb) :
    CeremonyPhase τ → PasskeyDb × CeremonyPhase τ
  | .findEnrolling userId rp =>
      (db, match db.requireUser userId with
        | none => .throws (.unauthorized "Invalid credentials")
        | some user => .findEnrolled user rp)
  | .findEnrolled user rp =>
      let options := env.registrationOptions user (db.passkeysOf user.id) rp
        input.challenge
      (db, .done (.ok (.registration options
        (env.registrationToken user.id options.challenge rp input))))
  | .findRegistering userId credential challengeToken =>
      (db, env.checkRegistration input.now db userId credential challengeToken)
  | .createCredential user credential info =>
      let row := info.row input.fresh.id user.id credential.transports
      match db.create row with
      | none => (db, .throws .internal)
      | some created => (created, .recordRegistered user row)
  | .recordRegistered user row =>
      ({ db with auth := db.auth.record ⟨"auth.passkey_registered",
          user.tenantId, some user.id, none, none, .none⟩ },
        .done (.ok (.registered row)))
  | .findLoginTenant slug tenantSlug email rp =>
      (db, match db.auth.accounts.findTenant slug with
        | none => .done (.ok (.login (env.decoyOptions
            (loginRequest tenantSlug email rp input))))
        | some tenant => .findLoginUser (some tenant.id) tenantSlug email rp)
  | .findLoginUser tenantId tenantSlug email rp =>
      (db, match db.auth.accounts.findUser tenantId (env.toLowerCase email) with
        | none => .done (.ok (.login (env.decoyOptions
            (loginRequest tenantSlug email rp input))))
        | some user => .findPasskeys user tenantSlug email rp)
  | .findPasskeys user tenantSlug email rp =>
      let request := loginRequest tenantSlug email rp input
      let creds := db.passkeysOf user.id
      (db, .done (.ok (.login
        (if creds.length = 0 then env.decoyOptions request
        else env.knownOptions user creds request))))
  | .deleteCredential userId id =>
      let doomed := fun row : PasskeyCredential =>
        row.id = id && row.userId = userId
      if db.credentials.rows.countP doomed = 0 then
        (db, .throws (.badRequest "Passkey not found"))
      else (db.deleteMany doomed, .recordDeleted userId)
  | .recordDeleted userId =>
      ({ db with auth := db.auth.record ⟨"auth.passkey_deleted", none,
          some userId, none, none, .none⟩ }, .done (.ok .ok))
  | .change change purged =>
      ({ db.deleteMany purged with auth := change db.auth }, .done (.ok .ok))
  | .signIn phase =>
      let stepped := phase.step env.toPasskeyEnv input.now input.fresh db
      (stepped.1, .signIn stepped.2)
  | .done outcome => (db, .done outcome)

end CeremonyEnv

/-- The ceremonies as a program. -/
def ceremonies (env : CeremonyEnv τ) :
    Program PasskeyDb (Ceremony τ) CeremonyInput (CeremonyPhase τ) where
  begins := env.begins
  step := env.step
  abandoned := fun _ => .throws .internal

/-! ## The journal -/

/-- What a challenge is for. -/
inductive CeremonyKind
  | registration
  | login
  deriving DecidableEq

/-- The purpose in the challenge token. -/
def CeremonyKind.purpose : CeremonyKind → String
  | .registration => "webauthn_reg"
  | .login => "webauthn_auth"

/-- What has happened, in order. -/
inductive CeremonyEntry
  /-- A challenge was handed out for an account, in this second. -/
  | drawn (kind : CeremonyKind) (userId challenge : String) (rp : RpContext)
      (iv : List UInt8) (second : Nat)
  /-- A registration was verified by this call, in this second. -/
  | enrolled (index : Nat) (ticket : Ticket) (credential : Attestation)
      (info : RegistrationInfo) (second : Nat)
  | registered (index : Nat) (row : PasskeyCredential)
  /-- A row was deleted, by its owner or with the account. -/
  | removed (id : String)
  /-- An assertion was verified by this call, in this second. -/
  | verified (index : Nat) (ticket : Ticket) (credential : Assertion)
      (row : PasskeyCredential) (second : Nat)
  /-- A sign-in has written the counter of the row that it has verified. -/
  | used (index : Nat) (row : PasskeyCredential)

/-- The ids of the rows that a deletion meets. -/
def removals (db : PasskeyDb) (doomed : PasskeyCredential → Bool) :
    List CeremonyEntry :=
  (db.credentials.rows.filter doomed).map fun row => .removed row.id

/-- What is noted of a statement, from where it leads. -/
def entries (env : CeremonyEnv τ) (index : Nat) (input : CeremonyInput)
    (db : PasskeyDb) (before after : CeremonyPhase τ) : List CeremonyEntry :=
  match before, after with
  | .findEnrolled user rp, _ =>
      [.drawn .registration user.id
        (env.registrationOptions user (db.passkeysOf user.id) rp
          input.challenge).challenge rp input.iv (input.now / 1000)]
  | .findRegistering _ credential token, .createCredential _ _ info =>
      match readChallengeToken env.keys (decryptSecret env.secrets) token
          "webauthn_reg" (input.now / 1000) with
      | .ok ticket => [.enrolled index ticket credential info (input.now / 1000)]
      | .error _ => []
  | .createCredential .., .recordRegistered _ row => [.registered index row]
  | .findPasskeys user tenantSlug email rp, _ =>
      if (db.passkeysOf user.id).length = 0 then []
      else [.drawn .login user.id
        (env.knownOptions user (db.passkeysOf user.id)
          (CeremonyEnv.loginRequest tenantSlug email rp input)).options.challenge
        rp input.iv (input.now / 1000)]
  | .deleteCredential userId id, .recordDeleted _ =>
      removals db fun row => row.id = id && row.userId = userId
  | .change _ purged, _ => removals db purged
  | .signIn (.findCredential request), .signIn (.updateCredential _ row _) =>
      match readChallengeToken env.keys (decryptSecret env.secrets)
          request.challengeToken "webauthn_auth" (input.now / 1000) with
      | .ok ticket => [.verified index ticket request.credential row
          (input.now / 1000)]
      | .error _ => []
  | .signIn (.updateCredential _ row _), .signIn (.findVerified ..) =>
      [.used index row]
  | _, _ => []

/-- The journal goes on with a statement. -/
def observeCeremony (env : CeremonyEnv τ) (journal : List CeremonyEntry)
    (index : Nat) (input : CeremonyInput) (db : PasskeyDb)
    (call : CeremonyPhase τ) : List CeremonyEntry :=
  journal ++ entries env index input db call (env.step input db call).2

/-! ## What nobody can forge -/

/-- The call that signs a challenge token. -/
def CeremonyEnv.mint (env : CeremonyEnv τ) :
    CeremonyKind → String → String → RpContext → List UInt8 → Mint
  | .registration, userId, challenge, rp, iv =>
      .registrationOptions (encryptSecret env.secrets iv userId) challenge rp
  | .login, userId, challenge, rp, iv =>
      .loginOptions (encryptSecret env.secrets iv userId) challenge rp

/-- A token that verifies was signed by the platform; a challenge token is one
that was handed out, or a decoy, whose text the cipher has not made and does not
decrypt. -/
def GenuineTicket (env : CeremonyEnv τ) (journal : List CeremonyEntry)
    (token : τ) (second : Nat) : Prop :=
  (env.keys.verifyClaims token second).isSome = true →
    ∃ mint ttlSec issuedAt,
      token = env.keys.signClaims mint.claims ttlSec issuedAt ∧
      ∀ kind, mint.purpose = some (CeremonyKind.purpose kind) →
        (∃ challenge rp, mint = .decoyOptions challenge rp ∧
          decryptSecret env.secrets ("decoy:" ++ challenge) = none) ∨
        ∃ userId challenge rp iv,
          CeremonyEntry.drawn kind userId challenge rp iv issuedAt ∈ journal ∧
          mint = env.mint kind userId challenge rp iv ∧
          ttlSec = env.challengeTtlSec

/-- The challenge token that a call presents next. -/
def CeremonyPhase.presents : CeremonyPhase τ → Option τ
  | .findRegistering _ _ token => some token
  | .signIn (.findCredential request) => some request.challengeToken
  | _ => none

/-- Only genuine tokens are presented, a row gets an id that none had before,
and an initialization vector has twelve bytes. -/
def Unforged (env : CeremonyEnv τ)
    (state : Pool PasskeyDb (CeremonyPhase τ) × List CeremonyEntry) :
    PoolEvent (Ceremony τ) CeremonyInput → Prop
  | .advance index input => input.iv.length = 12 ∧
      (∀ other row, CeremonyEntry.registered other row ∈ state.2 →
        row.id ≠ input.fresh.id) ∧
      ∀ call, state.1.calls[index]? = some call →
        ∀ token, call.presents = some token →
          GenuineTicket env state.2 token (input.now / 1000)
  | _ => True

end Auth
end EvoPlatform
