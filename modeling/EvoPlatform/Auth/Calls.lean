import EvoPlatform.Auth.Accounts
import EvoPlatform.Auth.Tokens

/-!
# Calls of the session services

`login`, `refresh`, `logout`, `resetPassword` and `UsersService.update`, one
database statement at a time.  A phase is a point at which a call waits for a
statement (or for bcrypt), with what it has read so far; checks on values in
memory run together with the statement before them.
-/

namespace EvoPlatform
namespace Auth

/-- How long after its revocation a token may come back without alarm. -/
def REFRESH_REUSE_GRACE_MS : Nat := 10000

/-- What the services take from their surroundings. -/
structure AuthEnv where
  sha256 : String → String
  /-- `bcrypt.compare` of a password with a hash. -/
  compare : String → String → Bool
  /-- `bcrypt.hash` of a password with the salt it draws. -/
  bcryptHash : String → String → String
  /-- `DUMMY_HASH`. -/
  dummyHash : String
  toLowerCase : String → String
  trim : String → String
  /-- The subject of a decoded reset token, when its purpose is a reset. -/
  resetSubject : String → Option String
  /-- `jwt.verify` of a reset token against the secret of the user. -/
  resetVerifies : String → User → Nat → Bool
  accessTtlSec : Nat
  refreshTtlDays : Nat

/-- What a statement may draw at random. -/
structure Fresh where
  /-- The id of a created row. -/
  id : String
  /-- `randomBytes(48)`, encoded. -/
  rawRefresh : String
  salt : String

/-- The detail of an audit event. -/
inductive AuditDetail
  | none
  | method (name : String)
  | revoked (count : Nat)
  | sessions (count : Nat) (reason : String)
  | purge (slug : String) (users auditEvents : Nat)
  | newMember (memberId email : String)
  | member (memberId : String)
  | memberRoles (memberId : String) (roleCount : Nat)
  | emailChange (old new : String)
  | appPurge (clientId : String) (roles tenants : Nat)
  | invitee (email : String)
  | workspace (slug : String)
  | signup (slug email : String) (trialEndsAt : Nat)
  deriving DecidableEq

/-- A row of the `audit_events` table. -/
structure AuditEvent where
  action : String
  tenantId : Option String
  userId : Option String
  appClientId : Option String
  ip : Option String
  detail : AuditDetail
  deriving DecidableEq

/-- The database of the platform, as far as sessions go. -/
structure AuthDb where
  accounts : Accounts
  tokens : Tokens
  audit : List AuditEvent

/-- `audit.record`. -/
def AuthDb.record (db : AuthDb) (event : AuditEvent) : AuthDb :=
  { db with audit := db.audit ++ [event] }

/-- `refreshToken.updateMany`, which answers with the number of rows it has
revoked. -/
def AuthDb.revokeMany (db : AuthDb) (doomed : RefreshToken → Bool)
    (now : Nat) : AuthDb × Nat :=
  ({ db with tokens := db.tokens.revoke doomed now },
    db.tokens.rows.countP doomed)

/-! ## Requests and answers -/

structure LoginDto where
  tenantSlug : Option String
  email : String
  password : String
  clientId : Option String

structure UpdateUserDto where
  firstName : Option String
  lastName : Option String
  name : Option String
  phone : Option String
  email : Option String
  password : Option String
  isPlatformAdmin : Option Bool
  isTenantAdmin : Option Bool

/-- `if (dto.password)`. -/
def UpdateUserDto.newPassword (dto : UpdateUserDto) : Option String :=
  given dto.password

/-- The calls. -/
inductive Request
  | login (dto : LoginDto) (ip : Option String)
  | refresh (rawToken : String)
  | logout (rawToken : String)
  | resetPassword (token password : String)
  | updateUser (id : String) (dto : UpdateUserDto)

/-- The claims of an access token. -/
structure AccessClaims where
  sub : String
  email : String
  tenantId : Option String
  tenantSlug : Option String
  roles : List String
  app : Option String
  platformAdmin : Bool
  tenantAdmin : Bool
  /-- When the token expires, in seconds. -/
  exp : Nat

/-- What `issueTokens` returns. -/
structure Session where
  accessToken : AccessClaims
  refreshToken : String
  expiresIn : Nat
  name : Option String
  tenantName : Option String

/-- What a call returns. -/
inductive Answer
  | session (session : Session)
  | ok
  | user (user : User)

/-! ## Phases -/

/-- On which ground tokens are issued. -/
inductive Origin
  /-- A password was verified. -/
  | login (ip : Option String)
  /-- A stored token was presented, not revoked when it was read. -/
  | refresh (stored : RefreshToken)

/-- For whom tokens are issued. -/
structure Grant where
  user : User
  tenant : Option Tenant
  clientId : Option String
  origin : Origin

/-- What is left of an update once the user is written. -/
structure UserUpdate where
  /-- The user as it was read. -/
  existing : User
  dto : UpdateUserDto
  /-- `dto.email`, in lower case. -/
  email : Option String

/-- Where a call stands: the statement it sends next. -/
inductive Phase
  -- login
  | findTenant (dto : LoginDto) (ip : Option String) (slug : String)
  | findUser (dto : LoginDto) (ip : Option String) (tenant : Option Tenant)
  | comparePassword (dto : LoginDto) (ip : Option String)
      (tenant : Option Tenant) (user : Option User)
  -- assertAppEnabled
  | findApp (grant : Grant) (tenant : Tenant) (clientId : String)
  | findEnablement (grant : Grant) (tenant : Tenant) (app : App)
  -- refresh
  | findToken (rawToken : String)
  | rotate (grant : Grant) (stored : RefreshToken)
  | revokeReused (stored : RefreshToken) (tenantId : Option String)
  | recordReuse (stored : RefreshToken) (tenantId : Option String)
      (count : Nat)
  -- issueTokens
  | createToken (grant : Grant)
  | recordLogin (grant : Grant) (ip : Option String) (session : Session)
  -- logout
  | revokePresented (rawToken : String)
  -- resetPassword
  | findResetUser (token password userId : String)
  | hashReset (user : User) (password : String)
  | resetTransaction (user : User) (passwordHash : String)
  | recordReset (user : User)
  -- UsersService.update
  | findExisting (id : String) (dto : UpdateUserDto)
  | findClash (update : UserUpdate) (email : String)
  | countAdmins (update : UserUpdate)
  | writeUser (update : UserUpdate)
  | revokeSessions (update : UserUpdate) (written : User)
  | recordSessions (update : UserUpdate) (written : User) (count : Nat)
  | recordEmail (update : UserUpdate) (written : User) (email : String)
  /-- The call has ended. -/
  | done (outcome : Except AuthError Answer)

/-- The call throws. -/
def Phase.throws (error : AuthError) : Phase := .done (.error error)

def invalidCredentials : Phase :=
  .throws (.unauthorized "Invalid credentials")

def invalidToken : Phase :=
  .throws (.unauthorized "Invalid refresh token")

def invalidLink : Phase :=
  .throws (.badRequest "Invalid or expired link")

/-- Behind the gate. -/
def Grant.admitted (grant : Grant) : Phase :=
  match grant.origin with
  | .login _ => .createToken grant
  | .refresh stored => .rotate grant stored

/-- `assertAppEnabled`, up to its first statement. -/
def Grant.assertAppEnabled (grant : Grant) : Phase :=
  match grant.tenant, given grant.clientId with
  | some tenant, some clientId => .findApp grant tenant clientId
  | _, _ => grant.admitted

/-- The checks that login and refresh make alike once the account is known. -/
def Grant.enter (grant : Grant) (now : Nat) : Phase :=
  match assertTenantUsable now grant.tenant with
  | .error error => .throws error
  | .ok () => grant.assertAppEnabled

/-- `completeLogin` with a password, up to its first statement. -/
def completeLogin (now : Nat) (user : User) (tenant : Option Tenant)
    (clientId ip : Option String) : Phase :=
  if user.deletedAt.isSome then invalidCredentials
  else if user.emailVerifiedAt.isNone then
    .throws (.forbidden "Email not verified")
  else Grant.enter ⟨user, tenant, clientId, .login ip⟩ now

/-- `refresh` with a token that is not revoked, up to its next statement. -/
def continueRefresh (now : Nat) (stored : RefreshToken) (user : User)
    (tenant : Option Tenant) : Phase :=
  if stored.expiresAt < now then invalidToken
  else if user.deletedAt.isSome then invalidToken
  else if user.emailVerifiedAt.isNone then
    .throws (.forbidden "Email not verified")
  else Grant.enter ⟨user, tenant, stored.appClientId, .refresh stored⟩ now

/-- `onRefreshReuse`, up to its first statement. -/
def onRefreshReuse (now : Nat) (stored : RefreshToken) (revokedAt : Nat)
    (tenantId : Option String) : Phase :=
  if now - revokedAt < REFRESH_REUSE_GRACE_MS then invalidToken
  else .revokeReused stored tenantId

/-- The row that `issueTokens` creates. -/
def Grant.token (grant : Grant) (env : AuthEnv) (now : Nat) (fresh : Fresh) :
    RefreshToken where
  id := fresh.id
  userId := grant.user.id
  tokenHash := env.sha256 fresh.rawRefresh
  appClientId := grant.clientId
  expiresAt := now + env.refreshTtlDays * 86400000
  revokedAt := none

/-- What `issueTokens` returns. -/
def Grant.session (grant : Grant) (env : AuthEnv) (now : Nat) (fresh : Fresh) :
    Session where
  accessToken :=
    { sub := grant.user.id
      email := grant.user.email
      tenantId := grant.tenant.map Tenant.id
      tenantSlug := grant.tenant.map Tenant.slug
      roles := rolesForApp grant.user grant.clientId
      app := grant.clientId
      platformAdmin := grant.user.isPlatformAdmin
      tenantAdmin := grant.user.isTenantAdmin
      exp := now / 1000 + env.accessTtlSec }
  refreshToken := fresh.rawRefresh
  expiresIn := env.accessTtlSec
  name := grant.user.name
  tenantName := grant.tenant.map Tenant.name

/-- Where a call goes with its tokens. -/
def Grant.issued (grant : Grant) (session : Session) : Phase :=
  match grant.origin with
  | .login ip => .recordLogin grant ip session
  | .refresh _ => .done (.ok (.session session))

/-- `fullName`. -/
def fullName (env : AuthEnv) (first last : Option String) : Option String :=
  given (some (env.trim (" ".intercalate ([first, last].filterMap given))))

namespace UserUpdate

variable (update : UserUpdate)

/-- The display name, if the update sets it. -/
def name (env : AuthEnv) : Option (Option String) :=
  if update.dto.firstName.isSome || update.dto.lastName.isSome then
    some (fullName env (update.dto.firstName <|> update.existing.firstName)
      (update.dto.lastName <|> update.existing.lastName))
  else update.dto.name.map some

/-- Does the update end the sessions of the user? -/
def endsSessions : Bool :=
  update.dto.newPassword.isSome || update.dto.isPlatformAdmin = some false

/-- The columns that the update sets. -/
def change (env : AuthEnv) (salt : String) (user : User) : User :=
  { user with
    firstName := update.dto.firstName <|> user.firstName
    lastName := update.dto.lastName <|> user.lastName
    phone := update.dto.phone <|> user.phone
    name := (update.name env).getD user.name
    email := update.email.getD user.email
    isPlatformAdmin := update.dto.isPlatformAdmin.getD user.isPlatformAdmin
    isTenantAdmin := update.dto.isTenantAdmin.getD user.isTenantAdmin
    passwordHash :=
      (update.dto.newPassword.map fun password =>
        env.bcryptHash password salt).getD user.passwordHash }

/-- Past the check for a clash. -/
def unclashed : Phase :=
  if update.dto.isPlatformAdmin = some false &&
      update.existing.isPlatformAdmin && update.existing.deletedAt.isNone then
    .countAdmins update
  else .writeUser update

/-- Past the end of the sessions. -/
def revoked (written : User) : Phase :=
  match update.email with
  | some email =>
      if email ≠ update.existing.email then .recordEmail update written email
      else .done (.ok (.user written))
  | none => .done (.ok (.user written))

/-- Past the write of the user. -/
def written (user : User) : Phase :=
  if update.endsSessions then .revokeSessions update user
  else update.revoked user

end UserUpdate

/-- The first phase of a call. -/
def Request.begins (env : AuthEnv) : Request → Phase
  | .login dto ip =>
      match given dto.tenantSlug with
      | some slug => .findTenant dto ip slug
      | none => .findUser dto ip none
  | .refresh rawToken => .findToken rawToken
  | .logout rawToken => .revokePresented rawToken
  | .resetPassword token password =>
      match env.resetSubject token with
      | some userId => .findResetUser token password userId
      | none => invalidLink
  | .updateUser id dto => .findExisting id dto

/-- Carry out the statement a call waits for, and go on to the next one. -/
def Phase.step (env : AuthEnv) (now : Nat) (fresh : Fresh) (db : AuthDb) :
    Phase → AuthDb × Phase
  | .findTenant dto ip slug =>
      (db, match db.accounts.findTenant slug with
        | none => invalidCredentials
        | some tenant => .findUser dto ip (some tenant))
  | .findUser dto ip tenant =>
      (db, .comparePassword dto ip tenant (db.accounts.findUser
        (tenant.map Tenant.id) (env.toLowerCase dto.email)))
  | .comparePassword dto ip tenant user =>
      let ok := env.compare dto.password
        ((user.map User.passwordHash).getD env.dummyHash)
      (db, match user, ok with
        | some user, true => completeLogin now user tenant dto.clientId ip
        | _, _ => invalidCredentials)
  | .findApp grant tenant clientId =>
      (db, match db.accounts.findApp clientId with
        | none =>
            .throws (.forbidden "App is not enabled for this workspace")
        | some app => .findEnablement grant tenant app)
  | .findEnablement grant tenant app =>
      (db, match assertEnablement now
          (db.accounts.appTenants.find? (tenant.id, app.id)) with
        | .error error => .throws error
        | .ok () => grant.admitted)
  | .findToken rawToken =>
      (db, match db.tokens.byHash.find? (env.sha256 rawToken) with
        | none => invalidToken
        | some stored =>
            match db.accounts.users.find? stored.userId with
            | none => .throws .internal
            | some user =>
                match stored.revokedAt with
                | some revokedAt =>
                    onRefreshReuse now stored revokedAt user.tenantId
                | none =>
                    continueRefresh now stored user (db.accounts.tenantOf user))
  | .rotate grant stored =>
      match db.tokens.revokeById stored.id now with
      | none => (db, .throws .internal)
      | some tokens => ({ db with tokens := tokens }, .createToken grant)
  | .revokeReused stored tenantId =>
      let revoked := db.revokeMany (Tokens.ofUser stored.userId) now
      (revoked.1, .recordReuse stored tenantId revoked.2)
  | .recordReuse stored tenantId count =>
      (db.record ⟨"auth.refresh_reuse_detected", tenantId, some stored.userId,
        stored.appClientId, none, .revoked count⟩, invalidToken)
  | .createToken grant =>
      match db.tokens.create (grant.token env now fresh) with
      | none => (db, .throws .internal)
      | some tokens =>
          ({ db with tokens := tokens }, grant.issued (grant.session env now fresh))
  | .recordLogin grant ip session =>
      (db.record ⟨"auth.login", grant.tenant.map Tenant.id, some grant.user.id,
        grant.clientId, ip, .method "password"⟩, .done (.ok (.session session)))
  | .revokePresented rawToken =>
      ((db.revokeMany (Tokens.ofHash (env.sha256 rawToken)) now).1,
        .done (.ok .ok))
  | .findResetUser token password userId =>
      (db, match db.accounts.users.find? userId with
        | none => invalidLink
        | some user =>
            if user.deletedAt.isSome then invalidLink
            else if env.resetVerifies token user now then
              .hashReset user password
            else invalidLink)
  | .hashReset user password =>
      (db, .resetTransaction user (env.bcryptHash password fresh.salt))
  | .resetTransaction user passwordHash =>
      match db.accounts.updateUser user.id fun stored =>
          { stored with
            passwordHash := passwordHash
            emailVerifiedAt := some (user.emailVerifiedAt.getD now) } with
      | none => (db, .throws .internal)
      | some accounts =>
          (({ db with accounts := accounts }.revokeMany
            (Tokens.ofUser user.id) now).1, .recordReset user)
  | .recordReset user =>
      (db.record ⟨"auth.password_reset", user.tenantId, some user.id, none, none,
        .none⟩, .done (.ok .ok))
  | .findExisting id dto =>
      (db, match db.accounts.users.find? id with
        | none => .throws (.notFound "User not found")
        | some existing =>
            let update : UserUpdate :=
              ⟨existing, dto, dto.email.map env.toLowerCase⟩
            match update.email with
            | some email =>
                if email ≠ existing.email then .findClash update email
                else update.unclashed
            | none => update.unclashed)
  | .findClash update email =>
      (db, match db.accounts.findClash update.existing email with
        | some _ =>
            .throws (.conflict "A user with that email already exists")
        | none => update.unclashed)
  | .countAdmins update =>
      (db, if db.accounts.otherAdmins update.existing = 0 then
          .throws (.conflict "This is the last platform admin — promote another account before removing this one")
        else .writeUser update)
  | .writeUser update =>
      match db.accounts.updateUser update.existing.id
          (update.change env fresh.salt) with
      | none => (db, .throws .internal)
      | some accounts =>
          ({ db with accounts := accounts },
            match accounts.users.find? update.existing.id with
            | none => .throws .internal
            | some written => update.written written)
  | .revokeSessions update written =>
      let revoked := db.revokeMany (Tokens.ofUser update.existing.id) now
      (revoked.1,
        if 0 < revoked.2 then .recordSessions update written revoked.2
        else update.revoked written)
  | .recordSessions update written count =>
      (db.record ⟨"auth.sessions_revoked", update.existing.tenantId,
        some update.existing.id, none, none, .sessions count
          (if update.dto.newPassword.isSome then "password_changed"
          else "admin_demoted")⟩, update.revoked written)
  | .recordEmail update written email =>
      (db.record ⟨"user.email_changed", update.existing.tenantId,
        some update.existing.id, none, none,
        .emailChange update.existing.email email⟩, .done (.ok (.user written)))
  | .done outcome => (db, .done outcome)

end Auth
end EvoPlatform
