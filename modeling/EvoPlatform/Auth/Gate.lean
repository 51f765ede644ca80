import EvoPlatform.Auth.Console
import EvoPlatform.Auth.Passkeys

/-!
# Every way in applies one gate

A password login, a refresh and a passkey login, each with the database to
itself.  All three end in the same checks on the account, the workspace and the
app, so they admit the same accounts and issue the same claims.
-/

namespace EvoPlatform
namespace Auth

/-! ## The ways in -/

/-- `login` as one step: it sends at most seven statements. -/
def loginAtOnce (env : AuthEnv) (now : Nat) (fresh : Fresh) (db : AuthDb)
    (dto : LoginDto) (ip : Option String) : AuthDb × Except AuthError Session :=
  let settled :=
    ((Request.login dto ip).begins env).settle env now fresh 7 db
  (settled.1, settled.2.outcome)

variable {τ : Type}

/-- Let a sign-in run on, with no other in between, for some statements. -/
def PasskeyPhase.settle (env : PasskeyEnv τ) (now : Nat) (fresh : Fresh) :
    Nat → PasskeyDb → PasskeyPhase τ → PasskeyDb × PasskeyPhase τ
  | 0, db, phase => (db, phase)
  | count + 1, db, phase =>
      PasskeyPhase.settle env now fresh count (phase.step env now fresh db).1
        (phase.step env now fresh db).2

/-- What a sign-in that has ended answers with. -/
def PasskeyPhase.outcome : PasskeyPhase τ → Except AuthError Session
  | .signIn phase => phase.outcome
  | _ => .error .internal

/-- `loginVerify` as one step: it sends at most seven statements. -/
def passkeyAtOnce (env : PasskeyEnv τ) (now : Nat) (fresh : Fresh)
    (db : PasskeyDb) (request : LoginVerify τ) :
    PasskeyDb × Except AuthError Session :=
  let settled :=
    (PasskeyPhase.findCredential request).settle env now fresh 7 db
  (settled.1, settled.2.outcome)

/-- What the indexes and the foreign keys of the accounts enforce, and the form
in which addresses and slugs are stored. -/
structure Accounts.WellKept (accounts : Accounts) (env : AuthEnv) : Prop where
  lowerCase : ∀ user ∈ accounts.users.rows,
    env.toLowerCase user.email = user.email
  slugUnique : accounts.tenants.Unique fun tenant => some tenant.slug
  slugGiven : ∀ tenant ∈ accounts.tenants.rows, tenant.slug ≠ ""
  /-- The foreign key of `users`. -/
  tenantStored : ∀ user ∈ accounts.users.rows, ∀ id ∈ user.tenantId,
    (accounts.tenants.find? id).isSome

/-! ## The gate -/

/-- The checks on the workspace and the app let a grant pass. -/
def Grant.Opens (grant : Grant) (accounts : Accounts) (now : Nat) : Prop :=
  assertTenantUsable now grant.tenant = .ok () ∧
    ∀ tenant client, grant.tenant = some tenant →
      given grant.clientId = some client →
        ∃ app, accounts.findApp client = some app ∧
          assertEnablement now
            (accounts.appTenants.find? (tenant.id, app.id)) = .ok ()

/-- The checks on the account, the workspace and the app let a grant pass. -/
def Grant.Passes (grant : Grant) (accounts : Accounts) (now : Nat) : Prop :=
  grant.user.deletedAt = none ∧ grant.user.emailVerifiedAt ≠ none ∧
    grant.Opens accounts now

/-- A call returns a session exactly when a condition is met. -/
structure Answers (condition : Prop) (session : Session)
    (outcome : Except AuthError Session) : Prop where
  admitted : condition → outcome = .ok session
  refused : ¬ condition → ∃ error, outcome = .error error

theorem Answers.succeeds_iff
    {condition : Prop}
    {session : Session}
    {outcome : Except AuthError Session}
    (answers : Answers condition session outcome) :
    Succeeds outcome ↔ condition := by
  constructor
  · rintro ⟨returned, isOk⟩
    by_contra unmet
    obtain ⟨error, isError⟩ := answers.refused unmet
    rw [isError] at isOk
    contradiction
  · intro met
    exact ⟨session, answers.admitted met⟩

theorem Answers.session_eq
    {condition : Prop}
    {session returned : Session}
    {outcome : Except AuthError Session}
    (answers : Answers condition session outcome)
    (isOk : outcome = .ok returned) :
    returned = session := by
  have met := answers.succeeds_iff.mp ⟨returned, isOk⟩
  rw [answers.admitted met] at isOk
  exact (Except.ok.inj isOk).symm

section Gate

variable (env : AuthEnv) (now : Nat) (fresh : Fresh) {db : AuthDb}
  {grant : Grant} {session : Session}

/-- The checks on the workspace and the app take two statements. -/
theorem enter_answers
    (count : Nat)
    (issues : ∀ count, (grant.admitted.settle env now fresh (count + 2)
      db).2.outcome = .ok session) :
    Answers (grant.Opens db.accounts now) session
      ((grant.enter now).settle env now fresh (count + 4) db).2.outcome := by
  unfold Grant.enter Grant.Opens
  cases usable : assertTenantUsable now grant.tenant with
  | error error =>
      simp only
      rw [settle_throws]
      exact ⟨fun opens => by simp at opens, fun _ => ⟨error, rfl⟩⟩
  | ok _ =>
      simp only
      unfold Grant.assertAppEnabled
      split
      · rename_i tenant client isTenant isClient
        cases found : db.accounts.findApp client with
        | none =>
            have refuses : (Phase.findApp grant tenant client).step env now
                fresh db = (db, .throws (.forbidden
                  "App is not enabled for this workspace")) := by
              simp only [Phase.step, found]
            rw [settle_of_step env now fresh _ refuses, settle_throws]
            refine ⟨?_, fun _ => ⟨_, rfl⟩⟩
            rintro ⟨_, enabled⟩
            obtain ⟨app, appFound, _⟩ := enabled tenant client isTenant isClient
            rw [found] at appFound
            contradiction
        | some app =>
            have finds : (Phase.findApp grant tenant client).step env now fresh
                db = (db, .findEnablement grant tenant app) := by
              simp only [Phase.step, found]
            rw [settle_of_step env now fresh _ finds]
            cases enabled : assertEnablement now
                (db.accounts.appTenants.find? (tenant.id, app.id)) with
            | error error =>
                have refuses : (Phase.findEnablement grant tenant app).step env
                    now fresh db = (db, .throws error) := by
                  simp only [Phase.step, enabled]
                rw [settle_of_step env now fresh _ refuses, settle_throws]
                refine ⟨?_, fun _ => ⟨_, rfl⟩⟩
                rintro ⟨_, isEnabled⟩
                obtain ⟨other, otherFound, passes⟩ :=
                  isEnabled tenant client isTenant isClient
                rw [found, Option.some.injEq] at otherFound
                rw [← otherFound, enabled] at passes
                contradiction
            | ok _ =>
                have passes : (Phase.findEnablement grant tenant app).step env
                    now fresh db = (db, grant.admitted) := by
                  simp only [Phase.step, enabled]
                rw [settle_of_step env now fresh _ passes]
                refine ⟨fun _ => issues count, fun unmet => absurd ?_ unmet⟩
                refine ⟨trivial, ?_⟩
                intro otherTenant otherClient isOtherTenant isOtherClient
                rw [isTenant, Option.some.injEq] at isOtherTenant
                rw [isClient, Option.some.injEq] at isOtherClient
                subst isOtherTenant isOtherClient
                exact ⟨app, found, enabled⟩
      · rename_i unscoped
        refine ⟨fun _ => issues (count + 2), fun unmet => absurd ?_ unmet⟩
        refine ⟨trivial, ?_⟩
        intro tenant client isTenant isClient
        exact absurd isClient (unscoped tenant client isTenant)

/-- With new draws, the last two statements of a login issue a session. -/
theorem settle_createToken_ok
    (count : Nat)
    {ip : Option String}
    (origin : grant.origin = .login ip)
    (isNew : fresh.IsNew env db.tokens) :
    ((Phase.createToken grant).settle env now fresh (count + 2)
      db).2.outcome = .ok (grant.session env now fresh) := by
  obtain ⟨created, creation⟩ : ∃ created,
      db.tokens.create (grant.token env now fresh) = some created :=
    Tokens.create_of_new (fun other present => (isNew.2 other present).1)
      fun other present => (isNew.2 other present).2
  have creates : (Phase.createToken grant).step env now fresh db =
      ({ db with tokens := created },
        .recordLogin grant ip (grant.session env now fresh)) := by
    simp only [Phase.step, creation, Grant.issued, origin]
  rw [settle_of_step env now fresh _ creates,
    settle_of_step env now fresh _ rfl, settle_done]
  rfl

/-- The gate behind every login. -/
theorem completeLogin_answers
    (count : Nat)
    (user : User)
    (tenant : Option Tenant)
    (clientId ip : Option String)
    (isNew : fresh.IsNew env db.tokens) :
    Answers
      (Grant.Passes ⟨user, tenant, clientId, .login ip⟩ db.accounts now)
      (Grant.session ⟨user, tenant, clientId, .login ip⟩ env now fresh)
      ((completeLogin now user tenant clientId ip).settle env now fresh
        (count + 4) db).2.outcome := by
  unfold completeLogin Grant.Passes
  split
  · rename_i deleted
    rw [invalidCredentials, settle_throws]
    refine ⟨?_, fun _ => ⟨_, rfl⟩⟩
    rintro ⟨kept, _⟩
    have unmarked : user.deletedAt = none := kept
    simp [unmarked] at deleted
  · rename_i kept
    split
    · rename_i unverified
      rw [settle_throws]
      refine ⟨?_, fun _ => ⟨_, rfl⟩⟩
      rintro ⟨_, verified, _⟩
      exact absurd (Option.isNone_iff_eq_none.mp unverified) verified
    · rename_i verified
      let grant : Grant := ⟨user, tenant, clientId, .login ip⟩
      have issues : ∀ count, (grant.admitted.settle env now fresh (count + 2)
          db).2.outcome = .ok (grant.session env now fresh) :=
        fun count => settle_createToken_ok env now fresh count rfl isNew
      have answers := enter_answers env now fresh count issues
      refine ⟨fun passes => answers.admitted passes.2.2, fun unmet =>
        answers.refused fun opens => unmet ⟨?_, ?_, opens⟩⟩
      · exact Option.not_isSome_iff_eq_none.mp kept
      · intro isNone
        exact verified (Option.isNone_iff_eq_none.mpr isNone)

/-- The gate behind a refresh. -/
theorem refreshAtOnce_answers
    {rawToken : String}
    {stored : RefreshToken}
    {user : User}
    (present : stored ∈ db.tokens.rows)
    (isHash : stored.tokenHash = env.sha256 rawToken)
    (account : db.accounts.users.find? stored.userId = some user)
    (unrevoked : stored.revokedAt = none)
    (unexpired : now ≤ stored.expiresAt)
    (isNew : fresh.IsNew env db.tokens) :
    Answers
      (Grant.Passes ⟨user, db.accounts.tenantOf user, stored.appClientId,
        .refresh stored⟩ db.accounts now)
      (Grant.session ⟨user, db.accounts.tenantOf user, stored.appClientId,
        .refresh stored⟩ env now fresh)
      (refreshAtOnce env now fresh db rawToken).2 := by
  have found : db.tokens.byHash.find? (env.sha256 rawToken) = some stored := by
    rw [← isHash]
    exact db.tokens.byHash.find?_of_mem present
  have reads : (Phase.findToken rawToken).step env now fresh db =
      (db, continueRefresh now stored user (db.accounts.tenantOf user)) := by
    simp only [Phase.step, found, account, unrevoked]
  have notExpired : ¬ stored.expiresAt < now := Nat.not_lt.mpr unexpired
  unfold refreshAtOnce
  rw [settle_of_step env now fresh 4 reads]
  unfold continueRefresh Grant.Passes
  rw [if_neg notExpired]
  split
  · rename_i deleted
    rw [invalidToken, settle_throws]
    refine ⟨?_, fun _ => ⟨_, rfl⟩⟩
    rintro ⟨kept, _⟩
    have unmarked : user.deletedAt = none := kept
    simp [unmarked] at deleted
  · rename_i kept
    split
    · rename_i unverified
      rw [settle_throws]
      refine ⟨?_, fun _ => ⟨_, rfl⟩⟩
      rintro ⟨_, verified, _⟩
      exact absurd (Option.isNone_iff_eq_none.mp unverified) verified
    · rename_i verified
      let grant : Grant := ⟨user, db.accounts.tenantOf user,
        stored.appClientId, .refresh stored⟩
      have issues : ∀ count, (grant.admitted.settle env now fresh (count + 2)
          db).2.outcome = .ok (grant.session env now fresh) :=
        fun count => settle_rotate_ok env now fresh count present rfl isNew
      have answers := enter_answers env now fresh 0 issues
      refine ⟨fun passes => answers.admitted passes.2.2, fun unmet =>
        answers.refused fun opens => unmet ⟨?_, ?_, opens⟩⟩
      · exact Option.not_isSome_iff_eq_none.mp kept
      · intro isNone
        exact verified (Option.isNone_iff_eq_none.mpr isNone)

/-- A login finds the account of an address. -/
theorem Accounts.findUser_of_mem
    (accounts : Accounts)
    {user : User}
    (present : user ∈ accounts.users.rows) :
    accounts.findUser user.tenantId user.email =
      if user.deletedAt.isNone then some user else none := by
  have only : ∀ other ∈ accounts.users.rows, other.tenantId = user.tenantId →
      other.email = user.email → other = user :=
    fun other otherPresent sameTenant sameEmail =>
      accounts.addressUnique other otherPresent user present
        (user.tenantId, user.email) (by rw [User.address, sameTenant, sameEmail])
        rfl
  cases found : accounts.findUser user.tenantId user.email with
  | none =>
      have absent := List.find?_eq_none.mp found user present
      rw [if_neg]
      simpa using absent
  | some other =>
      have matching := List.find?_some found
      simp only [Bool.and_eq_true, decide_eq_true_eq] at matching
      have same := only other (List.mem_of_find?_eq_some found) matching.1.1
        matching.1.2
      rw [same] at matching ⊢
      rw [if_pos matching.2]

/-- A login finds the workspace of a slug. -/
theorem Accounts.WellKept.findTenant_of_mem
    {accounts : Accounts}
    (kept : accounts.WellKept env)
    {tenant : Tenant}
    (present : tenant ∈ accounts.tenants.rows) :
    accounts.findTenant tenant.slug =
      if tenant.deletedAt.isNone then some tenant else none := by
  have only : ∀ other ∈ accounts.tenants.rows, other.slug = tenant.slug →
      other = tenant :=
    fun other otherPresent same => kept.slugUnique other otherPresent tenant
      present tenant.slug (congrArg some same) rfl
  cases found : accounts.findTenant tenant.slug with
  | none =>
      have absent := List.find?_eq_none.mp found tenant present
      rw [if_neg]
      simpa using absent
  | some other =>
      have matching := List.find?_some found
      simp only [Bool.and_eq_true, decide_eq_true_eq] at matching
      have same := only other (List.mem_of_find?_eq_some found) matching.1
      rw [same] at matching ⊢
      rw [if_pos matching.2]

/-- A password check, with the gate behind it. -/
theorem settle_findUser_answers
    (count : Nat)
    {dto : LoginDto}
    {ip : Option String}
    {user : User}
    {tenant : Option Tenant}
    (present : user ∈ db.accounts.users.rows)
    (ofTenant : tenant.map Tenant.id = user.tenantId)
    (isEmail : env.toLowerCase dto.email = user.email)
    (password : env.compare dto.password user.passwordHash = true)
    (isNew : fresh.IsNew env db.tokens) :
    Answers
      (Grant.Passes ⟨user, tenant, dto.clientId, .login ip⟩ db.accounts now)
      (Grant.session ⟨user, tenant, dto.clientId, .login ip⟩ env now fresh)
      ((Phase.findUser dto ip tenant).settle env now fresh (count + 6)
        db).2.outcome := by
  have reads : (Phase.findUser dto ip tenant).step env now fresh db =
      (db, .comparePassword dto ip tenant
        (if user.deletedAt.isNone then some user else none)) := by
    simp only [Phase.step, ofTenant, isEmail,
      db.accounts.findUser_of_mem present]
  rw [settle_of_step env now fresh _ reads]
  split
  · have compares : (Phase.comparePassword dto ip tenant (some user)).step env
        now fresh db =
          (db, completeLogin now user tenant dto.clientId ip) := by
      simp [Phase.step, password]
    rw [settle_of_step env now fresh _ compares]
    exact completeLogin_answers env now fresh count user tenant dto.clientId ip
      isNew
  · rename_i deleted
    have refuses : (Phase.comparePassword dto ip tenant none).step env now fresh
        db = (db, invalidCredentials) := by
      simp [Phase.step]
    rw [settle_of_step env now fresh _ refuses, invalidCredentials,
      settle_throws]
    refine ⟨?_, fun _ => ⟨_, rfl⟩⟩
    rintro ⟨kept, _⟩
    exact absurd (Option.isNone_iff_eq_none.mpr kept) deleted

/-- The gate behind a login with a password. -/
theorem loginAtOnce_answers
    (ip : Option String)
    (kept : db.accounts.WellKept env)
    {dto : LoginDto}
    {user : User}
    (present : user ∈ db.accounts.users.rows)
    (isSlug : given dto.tenantSlug =
      (db.accounts.tenantOf user).map Tenant.slug)
    (isEmail : env.toLowerCase dto.email = user.email)
    (password : env.compare dto.password user.passwordHash = true)
    (isNew : fresh.IsNew env db.tokens) :
    Answers
      (Grant.Passes ⟨user, db.accounts.tenantOf user, dto.clientId, .login ip⟩
        db.accounts now)
      (Grant.session ⟨user, db.accounts.tenantOf user, dto.clientId, .login ip⟩
        env now fresh)
      (loginAtOnce env now fresh db dto ip).2 := by
  unfold loginAtOnce
  cases ofUser : db.accounts.tenantOf user with
  | none =>
      rw [ofUser, Option.map_none] at isSlug
      have begins : (Request.login dto ip).begins env =
          .findUser dto ip none := by
        simp only [Request.begins, isSlug]
      rw [begins]
      apply settle_findUser_answers env now fresh 1 present _ isEmail password
        isNew
      cases isTenant : user.tenantId with
      | none => rfl
      | some id =>
          have stored := kept.tenantStored user present id isTenant
          simp only [Accounts.tenantOf, isTenant, Option.bind_some] at ofUser
          rw [ofUser] at stored
          contradiction
  | some tenant =>
      rw [ofUser, Option.map_some] at isSlug
      have begins : (Request.login dto ip).begins env =
          .findTenant dto ip tenant.slug := by
        simp only [Request.begins, isSlug]
      rw [begins]
      simp only [Accounts.tenantOf, Option.bind_eq_some_iff] at ofUser
      obtain ⟨id, isTenant, found⟩ := ofUser
      have tenantPresent := db.accounts.tenants.mem_of_find? found
      have isId := db.accounts.tenants.key_of_find? found
      have search := kept.findTenant_of_mem env tenantPresent
      by_cases isKept : tenant.deletedAt.isNone = true
      · have reads : (Phase.findTenant dto ip tenant.slug).step env now fresh
            db = (db, .findUser dto ip (some tenant)) := by
          rw [if_pos isKept] at search
          simp only [Phase.step, search]
        rw [settle_of_step env now fresh 6 reads]
        exact settle_findUser_answers env now fresh 0 present
          (by rw [isTenant, Option.map_some, isId]) isEmail password isNew
      · -- a deleted workspace is refused by the gate as well
        have refuses : (Phase.findTenant dto ip tenant.slug).step env now fresh
            db = (db, invalidCredentials) := by
          rw [if_neg isKept] at search
          simp only [Phase.step, search]
        rw [settle_of_step env now fresh 6 refuses, invalidCredentials,
          settle_throws]
        refine ⟨?_, fun _ => ⟨_, rfl⟩⟩
        rintro ⟨_, _, usable, _⟩
        have deleted : tenant.deletedAt.isSome = true := by
          rw [Option.isNone_iff_eq_none] at isKept
          exact Option.isSome_iff_ne_none.mpr isKept
        simp [assertTenantUsable, deleted] at usable

end Gate

/-! ## The passkey -/

section Passkey

variable (env : PasskeyEnv τ) (now : Nat) (fresh : Fresh)

theorem passkey_settle_of_step
    (count : Nat)
    {db after : PasskeyDb}
    {phase next : PasskeyPhase τ}
    (stepped : phase.step env now fresh db = (after, next)) :
    phase.settle env now fresh (count + 1) db =
      next.settle env now fresh count after := by
  rw [PasskeyPhase.settle, stepped]

/-- Behind the ceremony, a sign-in ends as a login does. -/
theorem settle_signIn
    (count : Nat)
    (db : PasskeyDb)
    (phase : Phase) :
    ((PasskeyPhase.signIn phase).settle env now fresh count db).2 =
      .signIn (phase.settle env.toAuthEnv now fresh count db.auth).2 := by
  induction count generalizing db phase with
  | zero => rfl
  | succ count inductionHypothesis =>
      cases phase with
      | recordLogin grant ip session =>
          rw [passkey_settle_of_step env now fresh count rfl,
            inductionHypothesis, settle_done,
            settle_of_step env.toAuthEnv now fresh count rfl, settle_done]
      | _ =>
          rw [passkey_settle_of_step env now fresh count rfl,
            inductionHypothesis]
          rfl

/-- A ceremony is verified for a user: the challenge token is good, the user has
the credential, and its answer is accepted, with the counter it reports. -/
def VerifiedFor (env : PasskeyEnv τ) (now : Nat) (db : PasskeyDb)
    (request : LoginVerify τ) (userId : String) (newCounter : Nat) : Prop :=
  ∃ ticket row,
    readChallengeToken env.keys (decryptSecret env.secrets)
      request.challengeToken "webauthn_auth" (now / 1000) = .ok ticket ∧
    db.findCredential request.credential.id ticket.uid = some row ∧
    row.userId = userId ∧
    env.verifyAuthenticationResponse request.credential ticket row =
      some newCounter

/-- The gate behind a passkey: the counter has to fit into its column first. -/
theorem passkeyAtOnce_answers
    {db : PasskeyDb}
    {request : LoginVerify τ}
    {user : User}
    {newCounter : Nat}
    (present : user ∈ db.auth.accounts.users.rows)
    (verified : VerifiedFor env now db request user.id newCounter)
    (isNew : fresh.IsNew env.toAuthEnv db.auth.tokens) :
    Answers
      (newCounter < 2147483648 ∧
        Grant.Passes ⟨user, db.auth.accounts.tenantOf user, request.clientId,
          .login request.ip⟩ db.auth.accounts now)
      (Grant.session ⟨user, db.auth.accounts.tenantOf user, request.clientId,
        .login request.ip⟩ env.toAuthEnv now fresh)
      (passkeyAtOnce env now fresh db request).2 := by
  obtain ⟨ticket, row, isTicket, found, ofUser, accepted⟩ := verified
  have fits_iff := db.useCredential_isSome_iff newCounter now
    (List.mem_of_find?_eq_some found)
  have reads : (PasskeyPhase.findCredential request).step env now fresh db =
      (db, .updateCredential request row newCounter) := by
    simp only [PasskeyPhase.step, isTicket, found, accepted]
  unfold passkeyAtOnce
  rw [passkey_settle_of_step env now fresh 6 reads]
  cases isUsed : db.useCredential row.id newCounter now with
  | none =>
      have refuses : (PasskeyPhase.updateCredential request row newCounter).step
          env now fresh db = (db, .throws .internal) := by
        simp only [PasskeyPhase.step, isUsed]
      rw [passkey_settle_of_step env now fresh 5 refuses]
      simp only [PasskeyPhase.throws, settle_signIn, settle_throws,
        PasskeyPhase.outcome]
      rw [isUsed] at fits_iff
      exact ⟨fun met => absurd (fits_iff.mpr met.1) Bool.false_ne_true,
        fun _ => ⟨_, rfl⟩⟩
  | some used =>
      have fits : newCounter < 2147483648 :=
        fits_iff.mp (Option.isSome_iff_exists.mpr ⟨used, isUsed⟩)
      have writes : (PasskeyPhase.updateCredential request row newCounter).step
          env now fresh db = (used, .findVerified request row.userId) := by
        simp only [PasskeyPhase.step, isUsed]
      have sameAuth := PasskeyDb.auth_of_useCredential isUsed
      have account : used.auth.accounts.users.find? row.userId = some user := by
        rw [sameAuth, ofUser]
        exact db.auth.accounts.users.find?_of_mem present
      have looks : (PasskeyPhase.findVerified request row.userId).step env now
          fresh used = (used, .signIn (completeLogin now user
            (used.auth.accounts.tenantOf user) request.clientId request.ip)) := by
        simp only [PasskeyPhase.step, account]
      rw [passkey_settle_of_step env now fresh 5 writes,
        passkey_settle_of_step env now fresh 4 looks]
      simp only [settle_signIn, PasskeyPhase.outcome, fits, true_and]
      rw [sameAuth]
      exact completeLogin_answers env.toAuthEnv now fresh 0 user _
        request.clientId request.ip isNew

/-- A refresh, a login and a sign-in succeed alike, with the same claims. -/
structure AdmittedAlike (refreshed loggedIn signedIn : Except AuthError Session) :
    Prop where
  login : Succeeds refreshed ↔ Succeeds loggedIn
  passkey : Succeeds refreshed ↔ Succeeds signedIn
  claims : ∀ refreshSession loginSession passkeySession,
    refreshed = .ok refreshSession → loggedIn = .ok loginSession →
      signedIn = .ok passkeySession →
        refreshSession.accessToken = loginSession.accessToken ∧
          refreshSession.accessToken = passkeySession.accessToken

/-- A user, its workspace and an app scope, at one instant: a refresh with an
unrevoked and unexpired token, a login with the right password and a verified
passkey are admitted alike, and issue the same claims, if and only if the column
of the counter can hold what the passkey reports, or the account, the workspace
or the app let nobody in. -/
theorem one_gate
    (db : PasskeyDb)
    (user : User)
    (clientId : Option String)
    (rawToken : String)
    (stored : RefreshToken)
    (dto : LoginDto)
    (ip : Option String)
    (request : LoginVerify τ)
    (newCounter : Nat)
    (freshRefresh freshLogin freshPasskey : Fresh)
    (kept : db.auth.accounts.WellKept env.toAuthEnv)
    (present : user ∈ db.auth.accounts.users.rows)
    (storedPresent : stored ∈ db.auth.tokens.rows)
    (isHash : stored.tokenHash = env.sha256 rawToken)
    (ofUser : stored.userId = user.id)
    (ofClient : stored.appClientId = clientId)
    (unrevoked : stored.revokedAt = none)
    (unexpired : now ≤ stored.expiresAt)
    (isSlug : given dto.tenantSlug =
      (db.auth.accounts.tenantOf user).map Tenant.slug)
    (isEmail : env.toLowerCase dto.email = env.toLowerCase user.email)
    (password : env.compare dto.password user.passwordHash = true)
    (forClient : dto.clientId = clientId)
    (verified : VerifiedFor env now db request user.id newCounter)
    (withClient : request.clientId = clientId)
    (newRefresh : freshRefresh.IsNew env.toAuthEnv db.auth.tokens)
    (newLogin : freshLogin.IsNew env.toAuthEnv db.auth.tokens)
    (newPasskey : freshPasskey.IsNew env.toAuthEnv db.auth.tokens) :
    AdmittedAlike
        (refreshAtOnce env.toAuthEnv now freshRefresh db.auth rawToken).2
        (loginAtOnce env.toAuthEnv now freshLogin db.auth dto ip).2
        (passkeyAtOnce env now freshPasskey db request).2 ↔
      newCounter < 2147483648 ∨
        ¬ Grant.Passes ⟨user, db.auth.accounts.tenantOf user, clientId,
          .login ip⟩ db.auth.accounts now := by
  have account : db.auth.accounts.users.find? stored.userId = some user := by
    rw [ofUser]
    exact db.auth.accounts.users.find?_of_mem present
  have byRefresh := refreshAtOnce_answers env.toAuthEnv now freshRefresh
    storedPresent isHash account unrevoked unexpired newRefresh
  have byLogin := loginAtOnce_answers env.toAuthEnv now freshLogin ip kept
    present isSlug (isEmail.trans (kept.lowerCase user present)) password newLogin
  have byPasskey := passkeyAtOnce_answers env now freshPasskey present verified
    newPasskey
  subst ofClient
  rw [forClient] at byLogin
  rw [withClient] at byPasskey
  -- the three gates ask the same of the account, the workspace and the app
  have refreshes : Succeeds _ ↔ Grant.Passes ⟨user, _, _, .login ip⟩ _ now :=
    byRefresh.succeeds_iff
  have signsIn : Succeeds _ ↔ newCounter < 2147483648 ∧
      Grant.Passes ⟨user, _, _, .login ip⟩ _ now :=
    byPasskey.succeeds_iff
  constructor
  · rintro ⟨_, alike, _⟩
    rw [refreshes, signsIn] at alike
    tauto
  · intro fitsOrRefused
    refine ⟨byRefresh.succeeds_iff.trans byLogin.succeeds_iff.symm, ?_, ?_⟩
    · rw [refreshes, signsIn]
      tauto
    · intro refreshSession loginSession passkeySession isRefresh isLogin
        isPasskey
      rw [byRefresh.session_eq isRefresh, byLogin.session_eq isLogin,
        byPasskey.session_eq isPasskey]
      exact ⟨rfl, rfl⟩

end Passkey

/-! ## A workspace with an app -/

/-- A workspace that has an app enabled, with one user. -/
def oneWorkspace : Accounts where
  tenants := ⟨[⟨"t1", "acme", "Acme", .active, none, none⟩],
    List.nodup_singleton "t1"⟩
  apps := ⟨[⟨"a1", "app1", none⟩], by simp⟩
  appTenants := ⟨[⟨"t1", "a1", .active, "free", none, none, none⟩], by simp⟩
  users := ⟨[{ demoUser with tenantId := some "t1" }], by simp⟩
  addressUnique := Table.unique_of_nodup (by decide)
  clientIdGiven := by simp
  clientIdUnique := Table.unique_of_nodup (by decide)
  subscriptionUnique := Table.unique_of_nodup (by decide)
  references := by simp [Table.find?]

/-- The user has a token for the app, and a passkey. -/
def workspaceDb : PasskeyDb where
  auth :=
    { accounts := oneWorkspace
      tokens :=
        ⟨[{ demoToken "k0" "raw0" with appClientId := some "app1" }],
          by simp, by simp⟩
      audit := [] }
  credentials := ⟨[⟨"p1", "u1", "cred", "key", 3, none, none⟩], by simp⟩
  credentialIdUnique := Table.unique_of_nodup (by decide)
  countersFit := Table.every_singleton (by decide)

theorem wellKept_oneWorkspace : oneWorkspace.WellKept plainEnv where
  lowerCase := fun _ _ => rfl
  slugUnique := Table.unique_of_nodup (by decide)
  slugGiven := by simp [oneWorkspace]
  tenantStored := by simp [oneWorkspace, Table.find?]

/-- The user gets in on every way. -/
theorem one_gate_workspace :
    let refreshed :=
      (refreshAtOnce plainEnv 1000 ⟨"k1", "raw1", ""⟩ workspaceDb.auth "raw0").2
    let loggedIn := (loginAtOnce plainEnv 1000 ⟨"k2", "raw2", ""⟩
      workspaceDb.auth ⟨some "acme", "a@b.co", "secret", some "app1"⟩ none).2
    let signedIn := (passkeyAtOnce lengthEnv 1000 ⟨"k3", "raw3", ""⟩ workspaceDb
      { assertionFive with clientId := some "app1" }).2
    Succeeds refreshed ∧ Succeeds loggedIn ∧ Succeeds signedIn := by
  obtain ⟨byLogin, byPasskey, _⟩ := (one_gate lengthEnv 1000 workspaceDb
    { demoUser with tenantId := some "t1" } (some "app1") "raw0"
    { demoToken "k0" "raw0" with appClientId := some "app1" }
    ⟨some "acme", "a@b.co", "secret", some "app1"⟩ none
    { assertionFive with clientId := some "app1" } 5 ⟨"k1", "raw1", ""⟩
    ⟨"k2", "raw2", ""⟩ ⟨"k3", "raw3", ""⟩
    wellKept_oneWorkspace (by simp [workspaceDb, oneWorkspace])
    (by simp [workspaceDb]) rfl rfl rfl rfl (by decide) rfl rfl (by decide)
    rfl ⟨⟨"u1", "c", "a.co", "https://a.co"⟩,
      ⟨"p1", "u1", "cred", "key", 3, none, none⟩, rfl, rfl, rfl, rfl⟩ rfl
    (by decide) (by decide) (by decide)).mpr (Or.inl (by decide))
  have refreshes : Succeeds (refreshAtOnce plainEnv 1000 ⟨"k1", "raw1", ""⟩
      workspaceDb.auth "raw0").2 :=
    ⟨_, rfl⟩
  exact ⟨refreshes, byLogin.mp refreshes, byPasskey.mp refreshes⟩

/-- Surroundings in which the authenticator has signed 2147483648 times. -/
def wornEnv : PasskeyEnv Payload :=
  { lengthEnv with
    verifyAuthenticationResponse := fun _ _ row =>
      if row.signCount < 2147483648 then some 2147483648 else none }

/-- The passkey of a user who gets in on the other ways is verified, and then
refused. -/
theorem one_gate_wornPasskey :
    let request := { assertionFive with clientId := some "app1" }
    VerifiedFor wornEnv 1000 workspaceDb request "u1" 2147483648 ∧
      Succeeds (refreshAtOnce plainEnv 1000 ⟨"k1", "raw1", ""⟩
        workspaceDb.auth "raw0").2 ∧
      Succeeds (loginAtOnce plainEnv 1000 ⟨"k2", "raw2", ""⟩ workspaceDb.auth
        ⟨some "acme", "a@b.co", "secret", some "app1"⟩ none).2 ∧
      (passkeyAtOnce wornEnv 1000 ⟨"k3", "raw3", ""⟩ workspaceDb request).2 =
        .error .internal := by
  refine ⟨⟨⟨"u1", "c", "a.co", "https://a.co"⟩,
    ⟨"p1", "u1", "cred", "key", 3, none, none⟩, rfl, rfl, rfl, rfl⟩,
    ⟨_, rfl⟩, ⟨_, rfl⟩, rfl⟩

end Auth
end EvoPlatform
