import EvoPlatform.Auth.Sessions

/-!
# The admin console and its session

One page of the console with any number of `api()` calls.  The page and the
calls run on one thread: a phase is a message in flight, and what the page does
between two messages is one step.  The server carries out each `refresh` as one
step.
-/

namespace EvoPlatform
namespace Auth

/-! ## A refresh as one step -/

/-- Let a call run on, with no other in between, for some statements. -/
def Phase.settle (env : AuthEnv) (now : Nat) (fresh : Fresh) :
    Nat → AuthDb → Phase → AuthDb × Phase
  | 0, db, phase => (db, phase)
  | count + 1, db, phase =>
      Phase.settle env now fresh count (phase.step env now fresh db).1
        (phase.step env now fresh db).2

/-- What a refresh that has ended answers with. -/
def Phase.outcome : Phase → Except AuthError Session
  | .done (.ok (.session session)) => .ok session
  | .done (.error error) => .error error
  | _ => .error .internal

/-- `refresh` as one step: it sends at most five statements. -/
def refreshAtOnce (env : AuthEnv) (now : Nat) (fresh : Fresh) (db : AuthDb)
    (rawToken : String) : AuthDb × Except AuthError Session :=
  let settled := (Phase.findToken rawToken).settle env now fresh 5 db
  (settled.1, settled.2.outcome)

/-! ## The page -/

/-- The session of the page, `S` and its copy in `sessionStorage`. -/
structure PageSession where
  access : Option AccessClaims
  refresh : Option String
  email : Option String
  userId : Option String
  userName : Option String

/-- `setSession` with what `refresh` has answered. -/
def setSession (session : Session) : PageSession where
  access := some session.accessToken
  refresh := some session.refreshToken
  email := some session.accessToken.email
  userId := some session.accessToken.sub
  userName := some (session.name.getD "")

/-- `clearSession`. -/
def clearSession : PageSession := ⟨none, none, none, none, none⟩

/-- The page, and the database behind the server. -/
structure Site where
  page : PageSession
  server : AuthDb

/-- How the server answers a request of `api()`: with status 401, with another
error, or with data. -/
inductive Reply
  | ok
  | unauthorized
  | failed
  deriving DecidableEq

/-- `jwt.verify`: the token has not expired. -/
def AccessClaims.isLive (claims : AccessClaims) (now : Nat) : Bool :=
  now / 1000 < claims.exp

/-- A request behind `JwtAuthGuard`; no handler behind it answers with 401. -/
def serve (now : Nat) (handled : Bool) (token : Option AccessClaims) : Reply :=
  if token.any fun claims => claims.isLive now then
    if handled then .ok else .failed
  else .unauthorized

/-- Where a call of `api()` stands. -/
inductive ApiPhase
  | ready
  /-- A request is on its way. -/
  | sent (token : Option AccessClaims)
  | answered (token : Option AccessClaims) (reply : Reply)
  /-- A refresh is on its way. -/
  | refreshing (rawToken : String)
  | refreshed (outcome : Except AuthError Session)
  /-- The request is on its way once more. -/
  | resent (token : Option AccessClaims)
  | reanswered (token : Option AccessClaims) (reply : Reply)
  /-- The call has returned data or thrown another error. -/
  | returned (token : Option AccessClaims)
  /-- The call has shown the login, and the session is cleared. -/
  | signedOut

/-- What a step of a call takes from its surroundings. -/
structure ApiInput where
  now : Nat
  fresh : Fresh
  handled : Bool

/-- The end of `api()`. -/
def Site.finish (site : Site) (token : Option AccessClaims) (reply : Reply) :
    Site × ApiPhase :=
  if reply = .unauthorized then ({ site with page := clearSession }, .signedOut)
  else (site, .returned token)

/-- The next message arrives, and what follows on the thread it arrives at. -/
def ApiPhase.step (env : AuthEnv) (input : ApiInput) (site : Site) :
    ApiPhase → Site × ApiPhase
  | .ready => (site, .sent site.page.access)
  | .sent token => (site, .answered token (serve input.now input.handled token))
  | .answered token reply =>
      if reply = .unauthorized then
        match given site.page.refresh with
        | some rawToken => (site, .refreshing rawToken)
        | none => site.finish token reply
      else site.finish token reply
  | .refreshing rawToken =>
      let answer := refreshAtOnce env input.now input.fresh site.server rawToken
      ({ site with server := answer.1 }, .refreshed answer.2)
  | .refreshed (.ok session) =>
      let page := setSession session
      ({ site with page := page }, .resent page.access)
  | .refreshed (.error _) => site.finish none .unauthorized
  | .resent token =>
      (site, .reanswered token (serve input.now input.handled token))
  | .reanswered token reply => site.finish token reply
  | .returned token => (site, .returned token)
  | .signedOut => (site, .signedOut)

/-- The calls of a page as a program.  A page gives up none of them. -/
def consoleCalls (env : AuthEnv) : Program Site Unit ApiInput ApiPhase where
  begins := fun _ => .ready
  step := fun input site phase => phase.step env input site
  abandoned := id

/-! ## What a refresh does at once -/

/-- What a refresh as one step can do. -/
inductive Refreshed (env : AuthEnv) (now : Nat) (fresh : Fresh) (db : AuthDb)
    (rawToken : String) : AuthDb → Except AuthError Session → Prop
  | failed {after : AuthDb} (error : AuthError) :
      after.accounts = db.accounts →
      (after.tokens = db.tokens ∨
        ∃ doomed, after.tokens = db.tokens.revoke doomed now) →
      Refreshed env now fresh db rawToken after (.error error)
  | rotated {after : AuthDb} {stored : RefreshToken} (grant : Grant) :
      db.tokens.byHash.find? (env.sha256 rawToken) = some stored →
      stored.revokedAt = none →
      after.accounts = db.accounts →
      Tokens.Creates
        (db.tokens.revoke (fun token => token.id = stored.id) now)
        after.tokens (grant.token env now fresh) →
      grant.user.id = stored.userId → grant.clientId = stored.appClientId →
      Refreshed env now fresh db rawToken after
        (.ok (grant.session env now fresh))

section Settle

variable (env : AuthEnv) (now : Nat) (fresh : Fresh)

@[simp] theorem settle_done
    (count : Nat)
    (db : AuthDb)
    (outcome : Except AuthError Answer) :
    (Phase.done outcome).settle env now fresh count db =
      (db, .done outcome) := by
  induction count with
  | zero => rfl
  | succ count inductionHypothesis => exact inductionHypothesis

@[simp] theorem settle_throws
    (count : Nat)
    (db : AuthDb)
    (error : AuthError) :
    (Phase.throws error).settle env now fresh count db =
      (db, .throws error) :=
  settle_done env now fresh count db (.error error)

/-- What holds wherever the next statement may lead holds of the call that sends
it. -/
theorem settle_of_moves
    {holds : AuthDb × Phase → Prop}
    {count : Nat}
    {db : AuthDb}
    {phase : Phase}
    (goesOn : ∀ after next, Phase.Moves env now fresh db phase after next →
      holds (next.settle env now fresh count after)) :
    holds (phase.settle env now fresh (count + 1) db) :=
  goesOn _ _ (moves_step env now fresh db phase)

variable {db : AuthDb} {rawToken : String} {stored : RefreshToken}
  {grant : Grant}

/-- A call that has settled has done to the database what a refresh can do. -/
def EndsRefreshed (env : AuthEnv) (now : Nat) (fresh : Fresh) (db : AuthDb)
    (rawToken : String) (settled : AuthDb × Phase) : Prop :=
  Refreshed env now fresh db rawToken settled.1 settled.2.outcome

theorem endsRefreshed_throws
    (count : Nat)
    (error : AuthError) :
    EndsRefreshed env now fresh db rawToken
      ((Phase.throws error).settle env now fresh count db) := by
  rw [settle_throws]
  exact .failed error rfl (Or.inl rfl)

section Granted

variable (found : db.tokens.byHash.find? (env.sha256 rawToken) = some stored)
  (unrevoked : stored.revokedAt = none)
  (origin : grant.origin = .refresh stored)
  (sameUser : grant.user.id = stored.userId)
  (sameClient : grant.clientId = stored.appClientId)

include found unrevoked origin sameUser sameClient

/-- The successor of the revoked token is created, or the call fails. -/
theorem endsRefreshed_createToken (count : Nat) :
    EndsRefreshed env now fresh db rawToken
      ((Phase.createToken grant).settle env now fresh count
        { db with
          tokens :=
            db.tokens.revoke (fun token => token.id = stored.id) now }) := by
  cases count with
  | zero => exact .failed .internal rfl (Or.inr ⟨_, rfl⟩)
  | succ count =>
      apply settle_of_moves
      intro after next moves
      cases moves with
      | failed _ error =>
          rw [settle_throws]
          exact .failed error rfl (Or.inr ⟨_, rfl⟩)
      | quiet plain => contradiction
      | granted gives under => cases gives
      | created _ created =>
          rw [Grant.issued, origin, settle_done]
          exact .rotated grant found unrevoked rfl
            (Tokens.creates_of_create created) sameUser sameClient

/-- The checks of a refresh come first, then the token is revoked. -/
theorem endsRefreshed_under
    (count : Nat)
    {phase : Phase}
    (under : Phase.Under grant phase) :
    EndsRefreshed env now fresh db rawToken
      (phase.settle env now fresh count db) := by
  induction count generalizing phase with
  | zero => cases under <;> exact .failed .internal rfl (Or.inl rfl)
  | succ count inductionHypothesis =>
      apply settle_of_moves
      intro after next moves
      cases moves with
      | failed _ error => exact endsRefreshed_throws env now fresh _ error
      | granted gives goesOn =>
          cases under with
          | findApp tenant clientId =>
              cases gives
              exact inductionHypothesis goesOn
          | findEnablement tenant app =>
              cases gives
              exact inductionHypothesis goesOn
          | rotate sameOrigin => cases gives
          | createToken isLogin => cases gives
      | rotated _ read revoked =>
          cases under with
          | rotate sameOrigin =>
              rw [origin, Origin.refresh.injEq] at sameOrigin
              subst sameOrigin
              obtain ⟨_, rfl⟩ := Tokens.of_revokeById revoked
              exact endsRefreshed_createToken env now fresh found unrevoked
                origin sameUser sameClient count
      | created _ created =>
          cases under with
          | createToken isLogin =>
              rw [origin] at isLogin
              contradiction
      | _ => cases under <;> contradiction

end Granted

/-- A refresh at once is refused, ends the sessions of the user, drops its
token, or rotates it. -/
theorem refreshed_refreshAtOnce (db : AuthDb) (rawToken : String) :
    Refreshed env now fresh db rawToken
      (refreshAtOnce env now fresh db rawToken).1
      (refreshAtOnce env now fresh db rawToken).2 := by
  have ends : EndsRefreshed env now fresh db rawToken
      ((Phase.findToken rawToken).settle env now fresh 5 db) := by
    apply settle_of_moves
    intro after next moves
    cases moves with
    | failed _ error => exact endsRefreshed_throws env now fresh _ error
    | quiet plain => contradiction
    | granted gives under =>
        cases gives with
        | refresh found account unrevoked =>
            exact endsRefreshed_under env now fresh found unrevoked rfl
              (db.accounts.users.key_of_find? account) rfl 4 under
    | detected tenantId found revoked late =>
        exact .failed _ rfl (Or.inr ⟨_, rfl⟩)
  exact ends

end Settle

/-- The accounts let a refresh pass for a user and a client. -/
def Accounts.Admits (accounts : Accounts) (now : Nat) (userId : String)
    (clientId : Option String) : Prop :=
  ∃ user, accounts.users.find? userId = some user ∧ user.deletedAt = none ∧
    user.emailVerifiedAt ≠ none ∧
    assertTenantUsable now (accounts.tenantOf user) = .ok () ∧
    ∀ tenant client, accounts.tenantOf user = some tenant →
      given clientId = some client →
        ∃ app, accounts.findApp client = some app ∧
          assertEnablement now
            (accounts.appTenants.find? (tenant.id, app.id)) = .ok ()

/-- What is drawn is in no row yet. -/
def Fresh.IsNew (fresh : Fresh) (env : AuthEnv) (tokens : Tokens) : Prop :=
  fresh.rawRefresh ≠ "" ∧ ∀ token ∈ tokens.rows,
    token.id ≠ fresh.id ∧ token.tokenHash ≠ env.sha256 fresh.rawRefresh

instance (fresh : Fresh) (env : AuthEnv) (tokens : Tokens) :
    Decidable (fresh.IsNew env tokens) :=
  inferInstanceAs (Decidable (_ ∧ ∀ token ∈ tokens.rows, _ ∧ _))

section Forward

variable (env : AuthEnv) (now : Nat) (fresh : Fresh)

theorem settle_of_step
    (count : Nat)
    {db after : AuthDb}
    {phase next : Phase}
    (stepped : phase.step env now fresh db = (after, next)) :
    phase.settle env now fresh (count + 1) db =
      next.settle env now fresh count after := by
  rw [Phase.settle, stepped]

variable {db : AuthDb} {rawToken : String} {stored : RefreshToken}

/-- With new draws, the last two statements of a refresh issue a session. -/
theorem settle_rotate_ok
    (count : Nat)
    {grant : Grant}
    (present : stored ∈ db.tokens.rows)
    (origin : grant.origin = .refresh stored)
    (isNew : fresh.IsNew env db.tokens) :
    ((Phase.rotate grant stored).settle env now fresh (count + 2)
      db).2.outcome = .ok (grant.session env now fresh) := by
  have revoked : db.tokens.revokeById stored.id now =
      some (db.tokens.revoke (fun token => token.id = stored.id) now) := by
    have found : db.tokens.byId.find? stored.id = some stored :=
      db.tokens.byId.find?_of_mem present
    simp [Tokens.revokeById, found]
  obtain ⟨created, creation⟩ : ∃ created, Tokens.create
      (db.tokens.revoke (fun token => token.id = stored.id) now)
      (grant.token env now fresh) = some created := by
    apply Tokens.create_of_new
    · intro token tokenPresent
      obtain ⟨old, oldPresent, sameId, _⟩ :=
        Tokens.revokedAt_of_mem_revoke tokenPresent
      rw [← sameId]
      exact (isNew.2 old oldPresent).1
    · intro token tokenPresent
      obtain ⟨old, oldPresent, _, sameHash, _⟩ :=
        Tokens.revokedAt_of_mem_revoke tokenPresent
      rw [← sameHash]
      exact (isNew.2 old oldPresent).2
  have rotates : (Phase.rotate grant stored).step env now fresh db =
      ({ db with
          tokens :=
            db.tokens.revoke (fun token => token.id = stored.id) now },
        .createToken grant) := by
    simp only [Phase.step, revoked]
  have creates : (Phase.createToken grant).step env now fresh
      { db with
        tokens := db.tokens.revoke (fun token => token.id = stored.id) now } =
      ({ db with tokens := created },
        .done (.ok (.session (grant.session env now fresh)))) := by
    simp only [Phase.step, creation, Grant.issued, origin]
  rw [settle_of_step env now fresh _ rotates,
    settle_of_step env now fresh _ creates, settle_done]
  rfl

/-- A live token of an account that passes the checks is rotated. -/
theorem refreshAtOnce_ok
    (present : stored ∈ db.tokens.rows)
    (isHash : stored.tokenHash = env.sha256 rawToken)
    (unrevoked : stored.revokedAt = none)
    (unexpired : now ≤ stored.expiresAt)
    (admits : db.accounts.Admits now stored.userId stored.appClientId)
    (isNew : fresh.IsNew env db.tokens) :
    ∃ session, (refreshAtOnce env now fresh db rawToken).2 = .ok session := by
  obtain ⟨user, account, kept, verified, usable, enabled⟩ := admits
  have found : db.tokens.byHash.find? (env.sha256 rawToken) = some stored := by
    rw [← isHash]
    exact db.tokens.byHash.find?_of_mem present
  let grant : Grant := ⟨user, db.accounts.tenantOf user, stored.appClientId,
    .refresh stored⟩
  have reads : (Phase.findToken rawToken).step env now fresh db =
      (db, grant.assertAppEnabled) := by
    have notExpired : ¬ stored.expiresAt < now := Nat.not_lt.mpr unexpired
    obtain ⟨time, isVerified⟩ := Option.ne_none_iff_exists'.mp verified
    simp [Phase.step, found, account, unrevoked, continueRefresh, notExpired,
      kept, isVerified, Grant.enter, usable, grant]
  have rotates : ∀ count, (grant.admitted.settle env now fresh (count + 2)
      db).2.outcome = .ok (grant.session env now fresh) :=
    fun count => settle_rotate_ok env now fresh count present rfl isNew
  refine ⟨grant.session env now fresh, ?_⟩
  unfold refreshAtOnce
  rw [settle_of_step env now fresh 4 reads]
  unfold Grant.assertAppEnabled
  split
  · rename_i tenant clientId isTenant isClient
    obtain ⟨app, appFound, appEnabled⟩ :=
      enabled tenant clientId isTenant isClient
    have findsApp : (Phase.findApp grant tenant clientId).step env now fresh
        db = (db, .findEnablement grant tenant app) := by
      simp only [Phase.step, appFound]
    have passes : (Phase.findEnablement grant tenant app).step env now fresh
        db = (db, grant.admitted) := by
      simp only [Phase.step, appEnabled]
    simp only
    rw [settle_of_step env now fresh 3 findsApp,
      settle_of_step env now fresh 2 passes]
    exact rotates 0
  · exact rotates 2

end Forward

end Auth
end EvoPlatform
