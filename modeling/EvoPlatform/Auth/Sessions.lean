import EvoPlatform.Auth.Calls
import EvoPlatform.Foundation.Pool

/-!
# Session calls in parallel

Any number of `login`, `refresh`, `logout`, `resetPassword` and
`UsersService.update` calls on one database.  What a statement can do is said
once, as a relation with one case for each kind of effect, from which the
invariants of later modules are derived.
-/

namespace EvoPlatform
namespace Auth

/-- A call of a device. -/
structure Call where
  device : Nat
  request : Request
  phase : Phase

/-- The session calls as a program. -/
def sessions (env : AuthEnv) :
    Program AuthDb (Nat × Request) (Nat × Fresh) Call where
  begins := fun request => ⟨request.1, request.2, request.2.begins env⟩
  step := fun input db call =>
    let stepped := call.phase.step env input.1 input.2 db
    (stepped.1, { call with phase := stepped.2 })
  abandoned := fun call => { call with phase := .throws .internal }

/-- The action under which a detected reuse is recorded. -/
def reuseDetected : String := "auth.refresh_reuse_detected"

/-- Tokens are issued for a presented token. -/
def Origin.isRefresh : Origin → Bool
  | .login _ => false
  | .refresh _ => true

namespace Phase

/-- A call is on a way on which it may yet read or write accounts, and holds no
token. -/
def plain : Phase → Bool
  | .findTenant .. | .findUser .. | .findResetUser .. | .hashReset ..
  | .resetTransaction .. | .recordReset .. | .findExisting .. | .findClash ..
  | .countAdmins .. | .writeUser .. | .recordSessions .. | .recordEmail .. =>
      true
  | _ => false

/-- A call has ended without a session. -/
def settled : Phase → Bool
  | .done (.ok (.session _)) => false
  | .done _ => true
  | _ => false

/-- A call is on a way on which it holds no token, or has ended there. -/
def tokenless (phase : Phase) : Bool := phase.plain || phase.settled

/-- A call is on the way of a refresh. -/
def ofRefresh : Phase → Bool
  | .findToken .. | .rotate .. | .revokeReused .. | .recordReuse .. => true
  | .findApp grant .. | .findEnablement grant .. | .createToken grant =>
      grant.origin.isRefresh
  | _ => false

/-- The checks for a grant are passed up to here, and nothing is written for it
yet. -/
inductive Under (grant : Grant) : Phase → Prop
  | findApp (tenant : Tenant) (clientId : String) :
      Under grant (.findApp grant tenant clientId)
  | findEnablement (tenant : Tenant) (app : App) :
      Under grant (.findEnablement grant tenant app)
  | rotate {stored : RefreshToken} :
      grant.origin = .refresh stored → Under grant (.rotate grant stored)
  | createToken {ip : Option String} :
      grant.origin = .login ip → Under grant (.createToken grant)

/-- The grant that a call may go on with after its next statement. -/
inductive Gives (env : AuthEnv) (db : AuthDb) : Phase → Grant → Prop
  | login (dto : LoginDto) (ip : Option String) (tenant : Option Tenant)
      (user : User) :
      Gives env db (.comparePassword dto ip tenant (some user))
        ⟨user, tenant, dto.clientId, .login ip⟩
  | refresh {rawToken : String} {stored : RefreshToken} {user : User} :
      db.tokens.byHash.find? (env.sha256 rawToken) = some stored →
      db.accounts.users.find? stored.userId = some user →
      stored.revokedAt = none →
      Gives env db (.findToken rawToken)
        ⟨user, db.accounts.tenantOf user, stored.appClientId, .refresh stored⟩
  | app (grant : Grant) (tenant : Tenant) (clientId : String) :
      Gives env db (.findApp grant tenant clientId) grant
  | enablement (grant : Grant) (tenant : Tenant) (app : App) :
      Gives env db (.findEnablement grant tenant app) grant

/-- What the next statement of a call can do to the database and to the
call. -/
inductive Moves (env : AuthEnv) (now : Nat) (fresh : Fresh) (db : AuthDb) :
    Phase → AuthDb → Phase → Prop
  | ended (outcome : Except AuthError Answer) :
      Moves env now fresh db (.done outcome) db (.done outcome)
  | failed (phase : Phase) (error : AuthError) :
      Moves env now fresh db phase db (.throws error)
  | quiet {phase next : Phase} {after : AuthDb} :
      phase.plain = true → next.tokenless = true →
      after.tokens = db.tokens → after.accounts = db.accounts →
      (after.audit = db.audit ∨ ∃ event, event.action ≠ reuseDetected ∧
        after.audit = db.audit ++ [event]) →
      Moves env now fresh db phase after next
  | looked (dto : LoginDto) (ip : Option String) (tenant : Option Tenant) :
      Moves env now fresh db (.findUser dto ip tenant) db
        (.comparePassword dto ip tenant (db.accounts.findUser
          (tenant.map Tenant.id) (env.toLowerCase dto.email)))
  | granted {phase next : Phase} {grant : Grant} :
      Gives env db phase grant → Under grant next →
      Moves env now fresh db phase db next
  | rotated (grant : Grant) (stored : RefreshToken) {tokens : Tokens} :
      db.tokens.revokeById stored.id now = some tokens →
      Moves env now fresh db (.rotate grant stored)
        { db with tokens := tokens } (.createToken grant)
  | created (grant : Grant) {tokens : Tokens} :
      db.tokens.create (grant.token env now fresh) = some tokens →
      Moves env now fresh db (.createToken grant)
        { db with tokens := tokens }
        (grant.issued (grant.session env now fresh))
  | recordedLogin (grant : Grant) (ip : Option String) (session : Session)
      (event : AuditEvent) :
      event.action ≠ reuseDetected →
      Moves env now fresh db (.recordLogin grant ip session) (db.record event)
        (.done (.ok (.session session)))
  | detected {rawToken : String} {stored : RefreshToken} {revokedAt : Nat}
      (tenantId : Option String) :
      db.tokens.byHash.find? (env.sha256 rawToken) = some stored →
      stored.revokedAt = some revokedAt →
      revokedAt + REFRESH_REUSE_GRACE_MS ≤ now →
      Moves env now fresh db (.findToken rawToken) db
        (.revokeReused stored tenantId)
  | revokedReused (stored : RefreshToken) (tenantId : Option String) :
      Moves env now fresh db (.revokeReused stored tenantId)
        (db.revokeMany (Tokens.ofUser stored.userId) now).1
        (.recordReuse stored tenantId
          (db.revokeMany (Tokens.ofUser stored.userId) now).2)
  | recordedReuse (stored : RefreshToken) (tenantId : Option String)
      (count : Nat) (event : AuditEvent) :
      Moves env now fresh db (.recordReuse stored tenantId count)
        (db.record event) invalidToken
  | loggedOut (rawToken : String) :
      Moves env now fresh db (.revokePresented rawToken)
        (db.revokeMany (Tokens.ofHash (env.sha256 rawToken)) now).1
        (.done (.ok .ok))
  | reset (user : User) (passwordHash : String) {accounts : Accounts} :
      Moves env now fresh db (.resetTransaction user passwordHash)
        ({ db with accounts := accounts }.revokeMany
          (Tokens.ofUser user.id) now).1
        (.recordReset user)
  | wrote (update : UserUpdate) {accounts : Accounts} (written : User) :
      Moves env now fresh db (.writeUser update)
        { db with accounts := accounts } (update.written written)
  | endedSessions (update : UserUpdate) (written : User) {next : Phase} :
      next.tokenless = true →
      Moves env now fresh db (.revokeSessions update written)
        (db.revokeMany (Tokens.ofUser update.existing.id) now).1 next

end Phase

/-! ## Every statement moves so -/

theorem Grant.under_admitted (grant : Grant) :
    Phase.Under grant grant.admitted := by
  unfold Grant.admitted
  cases origin : grant.origin with
  | login ip => exact .createToken origin
  | refresh stored => exact .rotate origin

/-- The checks common to login and refresh refuse a grant or pass it on. -/
theorem Grant.enter_cases (grant : Grant) (now : Nat) :
    (∃ error, grant.enter now = .throws error) ∨
      Phase.Under grant (grant.enter now) := by
  unfold Grant.enter
  split
  · rename_i error _
    exact Or.inl ⟨error, rfl⟩
  · apply Or.inr
    unfold Grant.assertAppEnabled
    split
    · exact .findApp _ _
    · exact grant.under_admitted

theorem completeLogin_cases
    (now : Nat)
    (user : User)
    (tenant : Option Tenant)
    (clientId ip : Option String) :
    (∃ error, completeLogin now user tenant clientId ip = .throws error) ∨
      Phase.Under ⟨user, tenant, clientId, .login ip⟩
        (completeLogin now user tenant clientId ip) := by
  unfold completeLogin
  split
  · exact Or.inl ⟨_, rfl⟩
  · split
    · exact Or.inl ⟨_, rfl⟩
    · exact Grant.enter_cases _ now

theorem continueRefresh_cases
    (now : Nat)
    (stored : RefreshToken)
    (user : User)
    (tenant : Option Tenant) :
    (∃ error, continueRefresh now stored user tenant = .throws error) ∨
      Phase.Under ⟨user, tenant, stored.appClientId, .refresh stored⟩
        (continueRefresh now stored user tenant) := by
  unfold continueRefresh
  split
  · exact Or.inl ⟨_, rfl⟩
  · split
    · exact Or.inl ⟨_, rfl⟩
    · split
      · exact Or.inl ⟨_, rfl⟩
      · exact Grant.enter_cases _ now

theorem UserUpdate.tokenless_unclashed (update : UserUpdate) :
    update.unclashed.tokenless = true := by
  unfold UserUpdate.unclashed
  split <;> rfl

theorem UserUpdate.tokenless_revoked (update : UserUpdate) (written : User) :
    (update.revoked written).tokenless = true := by
  unfold UserUpdate.revoked
  split
  · split <;> rfl
  · rfl

section MovesStep

variable (env : AuthEnv) (now : Nat) (fresh : Fresh) (db : AuthDb)

theorem Phase.Moves.ofCases
    {phase next : Phase}
    {grant : Grant}
    (gives : Gives env db phase grant)
    (goesOn : (∃ error, next = .throws error) ∨ Under grant next) :
    Moves env now fresh db phase db next := by
  rcases goesOn with ⟨error, rfl⟩ | goesOn
  · exact .failed phase error
  · exact .granted gives goesOn

/-- A presented token is refused, passed on, or taken for reused. -/
theorem moves_findToken (rawToken : String) :
    Phase.Moves env now fresh db (.findToken rawToken)
      ((Phase.findToken rawToken).step env now fresh db).1
      ((Phase.findToken rawToken).step env now fresh db).2 := by
  simp only [Phase.step]
  cases found : db.tokens.byHash.find? (env.sha256 rawToken) with
  | none => exact .failed _ _
  | some stored =>
      cases account : db.accounts.users.find? stored.userId with
      | none => simpa only [account] using .failed _ _
      | some user =>
          cases revoked : stored.revokedAt with
          | none =>
              simp only [account, revoked]
              exact .ofCases env now fresh db
                (.refresh found account revoked)
                (continueRefresh_cases now stored user _)
          | some revokedAt =>
              simp only [account, revoked, onRefreshReuse]
              split
              · exact .failed _ _
              · rename_i late
                refine .detected user.tenantId found revoked ?_
                unfold REFRESH_REUSE_GRACE_MS at late ⊢
                omega

/-- What a statement does is one of the moves. -/
theorem moves_step (phase : Phase) :
    Phase.Moves env now fresh db phase (phase.step env now fresh db).1
      (phase.step env now fresh db).2 := by
  cases phase with
  | findTenant dto ip slug =>
      simp only [Phase.step]
      split
      · exact .failed _ _
      · exact .quiet rfl rfl rfl rfl (Or.inl rfl)
  | findUser dto ip tenant => exact .looked dto ip tenant
  | comparePassword dto ip tenant user =>
      simp only [Phase.step]
      split
      · rename_i user _
        exact .ofCases env now fresh db (.login dto ip tenant user)
          (completeLogin_cases now user tenant dto.clientId ip)
      · exact .failed _ _
  | findApp grant tenant clientId =>
      simp only [Phase.step]
      split
      · exact .failed _ _
      · exact .granted (.app grant tenant clientId) (.findEnablement _ _)
  | findEnablement grant tenant app =>
      simp only [Phase.step]
      split
      · exact .failed _ _
      · exact .granted (.enablement grant tenant app) grant.under_admitted
  | findToken rawToken => exact moves_findToken env now fresh db rawToken
  | rotate grant stored =>
      simp only [Phase.step]
      split
      · exact .failed _ _
      · rename_i tokens revoked
        exact .rotated grant stored revoked
  | revokeReused stored tenantId => exact .revokedReused stored tenantId
  | recordReuse stored tenantId count =>
      exact .recordedReuse stored tenantId count _
  | createToken grant =>
      simp only [Phase.step]
      split
      · exact .failed _ _
      · rename_i tokens created
        exact .created grant created
  | recordLogin grant ip session =>
      exact .recordedLogin grant ip session _ (by simp [reuseDetected])
  | revokePresented rawToken => exact .loggedOut rawToken
  | findResetUser token password userId =>
      simp only [Phase.step]
      split
      · exact .failed _ _
      · split
        · exact .failed _ _
        · split
          · exact .quiet rfl rfl rfl rfl (Or.inl rfl)
          · exact .failed _ _
  | hashReset user password => exact .quiet rfl rfl rfl rfl (Or.inl rfl)
  | resetTransaction user passwordHash =>
      simp only [Phase.step]
      split
      · exact .failed _ _
      · exact .reset user passwordHash
  | recordReset user =>
      exact .quiet rfl rfl rfl rfl
        (Or.inr ⟨_, by simp [reuseDetected], rfl⟩)
  | findExisting id dto =>
      simp only [Phase.step]
      split
      · exact .failed _ _
      · refine .quiet rfl ?_ rfl rfl (Or.inl rfl)
        split
        · split
          · rfl
          · exact UserUpdate.tokenless_unclashed _
        · exact UserUpdate.tokenless_unclashed _
  | findClash update email =>
      simp only [Phase.step]
      split
      · exact .failed _ _
      · exact .quiet rfl update.tokenless_unclashed rfl rfl (Or.inl rfl)
  | countAdmins update =>
      simp only [Phase.step]
      split
      · exact .failed _ _
      · exact .quiet rfl rfl rfl rfl (Or.inl rfl)
  | writeUser update =>
      simp only [Phase.step]
      split
      · exact .failed _ _
      · rename_i accounts updated
        have sameId : ∀ user : User,
            (update.change env fresh.salt user).id = user.id :=
          fun _ => rfl
        obtain ⟨stored, _, found⟩ :=
          Accounts.find?_of_updateUser sameId updated
        rw [found]
        exact .wrote update _
  | revokeSessions update written =>
      refine .endedSessions update written ?_
      simp only [Phase.step]
      split
      · rfl
      · exact update.tokenless_revoked written
  | recordSessions update written count =>
      exact .quiet rfl (update.tokenless_revoked written) rfl rfl
        (Or.inr ⟨_, by simp [reuseDetected], rfl⟩)
  | recordEmail update written email =>
      exact .quiet rfl rfl rfl rfl
        (Or.inr ⟨_, by simp [reuseDetected], rfl⟩)
  | done outcome => exact .ended outcome

end MovesStep

/-! ## The way of a refresh -/

theorem ofRefresh_begins
    (env : AuthEnv)
    {request : Request}
    (notRefresh : ∀ rawToken, request ≠ .refresh rawToken) :
    (request.begins env).ofRefresh = false := by
  cases request with
  | login dto ip =>
      simp only [Request.begins]
      split <;> rfl
  | refresh rawToken => exact absurd rfl (notRefresh rawToken)
  | logout rawToken => rfl
  | resetPassword token password =>
      simp only [Request.begins]
      split <;> rfl
  | updateUser id dto => rfl

theorem Phase.ofRefresh_of_tokenless
    {phase : Phase}
    (tokenless : phase.tokenless = true) :
    phase.ofRefresh = false := by
  cases phase <;> first | rfl | contradiction

theorem Phase.Under.ofRefresh
    {grant : Grant} {phase : Phase}
    (under : Phase.Under grant phase) :
    phase.ofRefresh = grant.origin.isRefresh := by
  cases under with
  | findApp tenant clientId => rfl
  | findEnablement tenant app => rfl
  | rotate origin => simp [Phase.ofRefresh, Origin.isRefresh, origin]
  | createToken origin => rfl

/-- No other call gets on the way of a refresh. -/
theorem Phase.Moves.ofRefresh
    {env : AuthEnv} {now : Nat} {fresh : Fresh} {db after : AuthDb}
    {phase next : Phase}
    (moves : Phase.Moves env now fresh db phase after next)
    (notRefresh : phase.ofRefresh = false) :
    next.ofRefresh = false := by
  cases moves with
  | ended outcome => rfl
  | failed phase error => rfl
  | quiet _ tokenless => exact ofRefresh_of_tokenless tokenless
  | looked dto ip tenant => rfl
  | granted gives under =>
      rw [under.ofRefresh]
      cases gives with
      | login dto ip tenant user => rfl
      | refresh found account unrevoked => contradiction
      | app grant tenant clientId => exact notRefresh
      | enablement grant tenant app => exact notRefresh
  | rotated grant stored revoked => contradiction
  | created grant created =>
      simp only [Grant.issued]
      split <;> rfl
  | recordedLogin grant ip session event => rfl
  | detected tenantId found revoked late => contradiction
  | revokedReused stored tenantId => contradiction
  | recordedReuse stored tenantId count event => contradiction
  | loggedOut rawToken => rfl
  | reset user passwordHash => rfl
  | wrote update written =>
      unfold UserUpdate.written
      split
      · rfl
      · exact ofRefresh_of_tokenless (update.tokenless_revoked written)
  | endedSessions update written tokenless =>
      exact ofRefresh_of_tokenless tokenless

/-- The token that a call was presented is in the table. -/
def Presented (env : AuthEnv) (tokens : Tokens) (rawToken : String)
    (stored : RefreshToken) : Prop :=
  stored.tokenHash = env.sha256 rawToken ∧
    ∃ row ∈ tokens.rows, row.id = stored.id ∧ row.tokenHash = stored.tokenHash

theorem Presented.extends
    {env : AuthEnv}
    {tokens after : Tokens}
    {rawToken : String}
    {stored : RefreshToken}
    (presented : Presented env tokens rawToken stored)
    (longer : tokens.Extends after) :
    Presented env after rawToken stored := by
  obtain ⟨isHash, row, present, sameId, sameHash⟩ := presented
  obtain ⟨kept, keptPresent, keptId, keptHash, _⟩ := longer row present
  exact ⟨isHash, kept, keptPresent, keptId.trans sameId,
    keptHash.trans sameHash⟩

/-! ## A small database -/

/-- Surroundings in which nothing is hashed. -/
def plainEnv : AuthEnv where
  sha256 := id
  compare := fun password hash => password = hash
  bcryptHash := fun password _ => password
  dummyHash := ""
  toLowerCase := id
  trim := id
  resetSubject := some
  resetVerifies := fun _ _ _ => true
  accessTtlSec := 900
  refreshTtlDays := 30

/-- A user without a workspace. -/
def demoUser : User :=
  ⟨"u1", none, "a@b.co", none, none, none, none, "secret", false, false, some 0,
    none, []⟩

/-- A token of the user. -/
def demoToken (id raw : String) : RefreshToken :=
  ⟨id, "u1", raw, none, 1000000, none⟩

/-- A table with one token. -/
def oneToken : Tokens := ⟨[demoToken "k0" "raw0"], by decide, by decide⟩

/-- A database with one user and some tokens. -/
def demoSessions (tokens : Tokens) : AuthDb where
  accounts :=
    { tenants := .empty
      apps := .empty
      appTenants := .empty
      users := ⟨[demoUser], by decide⟩
      addressUnique := Table.unique_of_nodup (by decide)
      clientIdGiven := Accounts.empty.clientIdGiven
      clientIdUnique := Accounts.empty.clientIdUnique
      subscriptionUnique := Accounts.empty.subscriptionUnique
      references := Accounts.empty.references }
  tokens := tokens
  audit := []

/-- A statement at a time, with what it draws. -/
def statementAt (now index : Nat) (id raw : String) :
    PoolEvent (Nat × Request) (Nat × Fresh) :=
  .advance index (now, ⟨id, raw, ""⟩)

end Auth
end EvoPlatform
