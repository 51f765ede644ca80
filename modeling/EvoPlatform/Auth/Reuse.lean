import EvoPlatform.Auth.Sessions

/-!
# Honest devices and the detection of reuse

Devices that present only the latest token they were issued, and none that they
have rotated or logged out.  A token of such a device can be revoked only by a
bulk revocation, so a refresh is taken for a theft exactly when it comes ten
seconds or more after one.
-/

namespace EvoPlatform
namespace Auth

/-- A bulk revocation of the sessions of a user. -/
structure BulkRevocation where
  time : Nat
  /-- The ids of the tokens that it has revoked. -/
  ended : List String

/-- What is noted about the devices. -/
structure Devices where
  /-- The latest refresh token that a device was issued. -/
  held : Nat → Option String
  /-- The hashes of the tokens that were rotated or logged out. -/
  spent : List String
  /-- The hashes of the tokens that were issued. -/
  issued : List String
  bulk : List BulkRevocation

namespace Devices

/-- No device has a token yet. -/
def start : Devices := ⟨fun _ => none, [], [], []⟩

variable (devices : Devices)

/-- A token was rotated or logged out. -/
def spend (tokenHash : String) : Devices :=
  { devices with spent := tokenHash :: devices.spent }

/-- A token was created. -/
def issue (tokenHash : String) : Devices :=
  { devices with issued := tokenHash :: devices.issued }

/-- A device is given a token. -/
def hand (device : Nat) (rawToken : String) : Devices :=
  { devices with held := Function.update devices.held device (some rawToken) }

/-- The sessions of a user were ended. -/
def endSessions (tokens : Tokens) (now : Nat) (userId : String) : Devices :=
  { devices with
    bulk := ⟨now, (tokens.rows.filter (Tokens.ofUser userId)).map
      RefreshToken.id⟩ :: devices.bulk }

/-- What is noted of a statement, from where it leads. -/
def note (env : AuthEnv) (device now : Nat) (fresh : Fresh) (tokens : Tokens) :
    Phase → Phase → Devices
  | .revokeSessions update _, _ =>
      devices.endSessions tokens now update.existing.id
  | _, .done (.error _) => devices
  | .rotate _ stored, .createToken _ => devices.spend stored.tokenHash
  | .revokePresented rawToken, _ => devices.spend (env.sha256 rawToken)
  | .createToken _, .recordLogin .. =>
      devices.issue (env.sha256 fresh.rawRefresh)
  | .createToken _, .done _ =>
      (devices.issue (env.sha256 fresh.rawRefresh)).hand device fresh.rawRefresh
  | .recordLogin _ _ session, .done _ =>
      devices.hand device session.refreshToken
  | .resetTransaction user _, .recordReset _ =>
      devices.endSessions tokens now user.id
  | _, _ => devices

end Devices

def observeDevices (env : AuthEnv) (devices : Devices) (_ : Nat)
    (input : Nat × Fresh) (db : AuthDb) (call : Call) : Devices :=
  devices.note env call.device input.1 input.2 db.tokens call.phase
    (call.phase.step env input.1 input.2 db).2

/-- A call has ended. -/
def Phase.isDone : Phase → Bool
  | .done _ => true
  | _ => false

/-- The token that the next statement of a refresh looks up. -/
def Phase.presenting : Phase → Option String
  | .findToken rawToken => some rawToken
  | _ => none

/-- A device may present a token to a refresh or a logout: it is the latest that
the device was issued, and was neither rotated nor logged out. -/
def Devices.mayStart (devices : Devices) (env : AuthEnv) (device : Nat) :
    Request → Bool
  | .refresh rawToken | .logout rawToken =>
      devices.held device = some rawToken &&
        !devices.spent.contains (env.sha256 rawToken)
  | _ => true

/-- Calls come one after the other, from honest devices. -/
def Honest (env : AuthEnv) (state : Pool AuthDb Call × Devices) :
    PoolEvent (Nat × Request) (Nat × Fresh) → Prop
  | .start request => (∀ call ∈ state.1.calls, call.phase.isDone = true) ∧
      state.2.mayStart env request.1 request.2 = true
  | _ => True

/-- A token that a bulk revocation has ended is looked up less than ten seconds
after it. -/
def InTime (env : AuthEnv) (state : Pool AuthDb Call × Devices) :
    PoolEvent (Nat × Request) (Nat × Fresh) → Prop
  | .advance index input => ∀ call ∈ state.1.calls[index]?,
      ∀ rawToken ∈ call.phase.presenting,
        ∀ token ∈ state.1.data.tokens.rows,
          token.tokenHash = env.sha256 rawToken →
            ∀ revocation ∈ state.2.bulk, token.id ∈ revocation.ended →
              input.1 < revocation.time + REFRESH_REUSE_GRACE_MS
  | _ => True

section Decidable

variable (env : AuthEnv) (state : Pool AuthDb Call × Devices)

instance : (event : PoolEvent (Nat × Request) (Nat × Fresh)) →
    Decidable (Honest env state event)
  | .start request =>
      inferInstanceAs (Decidable (
        (∀ call ∈ state.1.calls, call.phase.isDone = true) ∧
          state.2.mayStart env request.1 request.2 = true))
  | .advance _ _ => isTrue trivial
  | .abandon _ => isTrue trivial

instance : (event : PoolEvent (Nat × Request) (Nat × Fresh)) →
    Decidable (InTime env state event)
  | .advance index input =>
      inferInstanceAs (Decidable (∀ call ∈ state.1.calls[index]?,
        ∀ rawToken ∈ call.phase.presenting,
          ∀ token ∈ state.1.data.tokens.rows,
            token.tokenHash = env.sha256 rawToken →
              ∀ revocation ∈ state.2.bulk, token.id ∈ revocation.ended →
                input.1 < revocation.time + REFRESH_REUSE_GRACE_MS))
  | .start _ => isTrue trivial
  | .abandon _ => isTrue trivial

end Decidable

/-! ## The tokens of honest devices -/

/-- A token that was issued and is not spent is unrevoked, or a bulk revocation
has ended it. -/
def Accounted (tokens : Tokens) (devices : Devices) : Prop :=
  ∀ token ∈ tokens.rows, token.tokenHash ∈ devices.issued →
    token.tokenHash ∉ devices.spent → ∀ time, token.revokedAt = some time →
      ∃ revocation ∈ devices.bulk,
        token.id ∈ revocation.ended ∧ revocation.time = time

/-- What a statement of a call can do to the tokens and the devices. -/
inductive DeviceEffect (tokens : Tokens) (devices : Devices) :
    Tokens → Devices → Prop
  | kept {noted : Devices} :
      noted.spent = devices.spent → noted.issued = devices.issued →
      (∀ revocation ∈ devices.bulk, revocation ∈ noted.bulk) →
      DeviceEffect tokens devices tokens noted
  | spent (doomed : RefreshToken → Bool) (now : Nat) (tokenHash : String) :
      (∀ token ∈ tokens.rows, doomed token = true →
        token.tokenHash = tokenHash) →
      DeviceEffect tokens devices (tokens.revoke doomed now)
        (devices.spend tokenHash)
  | issued {created : Tokens} {noted : Devices} (token : RefreshToken) :
      Tokens.Creates tokens created token → token.revokedAt = none →
      noted.spent = devices.spent →
      noted.issued = token.tokenHash :: devices.issued →
      noted.bulk = devices.bulk → DeviceEffect tokens devices created noted
  | ended (userId : String) (now : Nat) :
      DeviceEffect tokens devices (tokens.revoke (Tokens.ofUser userId) now)
        (devices.endSessions tokens now userId)

section Effect

variable {tokens after : Tokens} {devices noted : Devices}

theorem DeviceEffect.accounted
    (effect : DeviceEffect tokens devices after noted)
    (accounted : Accounted tokens devices) :
    Accounted after noted := by
  cases effect with
  | kept sameSpent sameIssued longer =>
      intro token present isIssued notSpent time revoked
      rw [sameSpent] at notSpent
      rw [sameIssued] at isIssued
      obtain ⟨revocation, isBulk, isEnded, atTime⟩ :=
        accounted token present isIssued notSpent time revoked
      exact ⟨revocation, longer revocation isBulk, isEnded, atTime⟩
  | spent doomed now tokenHash meant =>
      intro token present isIssued notSpent time revoked
      obtain ⟨old, oldPresent, sameId, sameHash, _, isOld | ⟨isDoomed, _⟩⟩ :=
        Tokens.revokedAt_of_mem_revoke present
      · subst isOld
        exact accounted token oldPresent isIssued
          (fun isSpent => notSpent (List.mem_cons_of_mem _ isSpent)) time
          revoked
      · have isSpent := meant old oldPresent isDoomed
        exact absurd (List.mem_cons.mpr (Or.inl (sameHash ▸ isSpent))) notSpent
  | issued token creates unrevoked sameSpent isNoted sameBulk =>
      intro other present isIssued notSpent time revoked
      rw [sameSpent] at notSpent
      rw [isNoted] at isIssued
      rw [sameBulk]
      rcases creates.mem_iff.mp present with old | rfl
      · rcases List.mem_cons.mp isIssued with same | isIssued
        · exact absurd same (creates.newHash other old)
        · exact accounted other old isIssued notSpent time revoked
      · rw [unrevoked] at revoked
        contradiction
  | ended userId now =>
      intro token present isIssued notSpent time revoked
      obtain ⟨old, oldPresent, sameId, _, _, isOld | ⟨isDoomed, isNow⟩⟩ :=
        Tokens.revokedAt_of_mem_revoke present
      · subst isOld
        obtain ⟨revocation, isBulk, isEnded, atTime⟩ :=
          accounted token oldPresent isIssued notSpent time revoked
        exact ⟨revocation, List.mem_cons_of_mem _ isBulk, isEnded, atTime⟩
      · refine ⟨_, List.mem_cons_self, ?_, ?_⟩
        · rw [← sameId]
          exact List.mem_map_of_mem (List.mem_filter.mpr ⟨oldPresent, isDoomed⟩)
        · rw [isNow] at revoked
          exact Option.some.inj revoked

end Effect

/-! ## The calls of honest devices -/

/-- Where the refresh of a token by an honest device may stand. -/
inductive Presenting (env : AuthEnv) (tokens : Tokens) (devices : Devices)
    (rawToken : String) : Phase → Prop
  | asked :
      env.sha256 rawToken ∈ devices.issued →
      env.sha256 rawToken ∉ devices.spent →
      Presenting env tokens devices rawToken (.findToken rawToken)
  | checked {grant : Grant} {stored : RefreshToken} {phase : Phase} :
      grant.origin = .refresh stored →
      Presented env tokens rawToken stored → Phase.Under grant phase →
      Presenting env tokens devices rawToken phase
  | rotated {grant : Grant} {stored : RefreshToken} :
      grant.origin = .refresh stored →
      Presenting env tokens devices rawToken (.createToken grant)
  | ended (outcome : Except AuthError Answer) :
      Presenting env tokens devices rawToken (.done outcome)

/-- The session that a login is to return. -/
def Phase.returning : Phase → Option Session
  | .recordLogin _ _ session => some session
  | _ => none

theorem Phase.returning_of_tokenless
    {phase : Phase}
    (tokenless : phase.tokenless = true) :
    phase.returning = none := by
  cases phase <;> first | rfl | contradiction

/-- A refresh stands where it may, no other call is on its way, and a login
returns a token that was issued. -/
def Trusted (env : AuthEnv) (db : AuthDb) (devices : Devices) (call : Call) :
    Prop :=
  match call.request with
  | .refresh rawToken =>
      Presenting env db.tokens devices rawToken call.phase
  | _ => call.phase.ofRefresh = false ∧
      ∀ session ∈ call.phase.returning,
        env.sha256 session.refreshToken ∈ devices.issued

/-- What a statement of an honest device leaves as it is. -/
structure Harmless (env : AuthEnv) (db after : AuthDb)
    (devices noted : Devices) : Prop where
  effect : DeviceEffect db.tokens devices after.tokens noted
  /-- A device is given issued tokens only. -/
  given : ∀ device rawToken, noted.held device = some rawToken →
    devices.held device = some rawToken ∨
      env.sha256 rawToken ∈ noted.issued
  /-- No reuse is recorded. -/
  unrecorded : ∀ event ∈ after.audit, event.action = reuseDetected →
    event ∈ db.audit

section Mover

variable {env : AuthEnv} {device now : Nat} {fresh : Fresh} {db after : AuthDb}
  {devices : Devices} {rawToken : String} {phase next : Phase}

theorem Harmless.refl (env : AuthEnv) (db : AuthDb) (devices : Devices) :
    Harmless env db db devices devices where
  effect := .kept rfl rfl fun _ present => present
  given _ _ isHeld := Or.inl isHeld
  unrecorded _ present _ := present

/-- A statement that changes tokens only, and hands none to a device. -/
theorem Harmless.ofTokens
    {noted : Devices}
    (effect : DeviceEffect db.tokens devices after.tokens noted)
    (sameHeld : noted.held = devices.held)
    (sameAudit : after.audit = db.audit) :
    Harmless env db after devices noted where
  effect := effect
  given _ _ isHeld := Or.inl (sameHeld ▸ isHeld)
  unrecorded _ present _ := sameAudit ▸ present

theorem unrecorded_record
    {event : AuditEvent}
    (different : event.action ≠ reuseDetected) :
    ∀ recorded ∈ db.audit ++ [event], recorded.action = reuseDetected →
      recorded ∈ db.audit := by
  intro recorded present isReuse
  rcases List.mem_append.mp present with before | isEvent
  · exact before
  · rw [List.mem_singleton.mp isEvent] at isReuse
    exact absurd isReuse different

/-- A device is given a token that was issued. -/
theorem given_hand
    (device : Nat)
    (isIssued : env.sha256 rawToken ∈ devices.issued) :
    ∀ other otherToken,
      (devices.hand device rawToken).held other = some otherToken →
        devices.held other = some otherToken ∨
          env.sha256 otherToken ∈ devices.issued := by
  intro other otherToken isHeld
  by_cases same : other = device
  · subst same
    simp only [Devices.hand, Function.update_self, Option.some.injEq] at isHeld
    exact Or.inr (isHeld ▸ isIssued)
  · simp only [Devices.hand, Function.update_of_ne same] at isHeld
    exact Or.inl isHeld

/-- The end of sessions is noted, but no token is changed. -/
theorem harmless_endSessions
    (userId : String)
    (sameTokens : after.tokens = db.tokens)
    (unrecorded : ∀ event ∈ after.audit, event.action = reuseDetected →
      event ∈ db.audit) :
    Harmless env db after devices
      (devices.endSessions db.tokens now userId) := by
  refine ⟨?_, fun _ _ isHeld => Or.inl isHeld, unrecorded⟩
  rw [sameTokens]
  exact .kept rfl rfl fun _ present => List.mem_cons_of_mem _ present

/-- Passed checks are not noted. -/
theorem Devices.note_granted
    (devices : Devices)
    (env : AuthEnv)
    (device now : Nat)
    (fresh : Fresh)
    {grant : Grant}
    (gives : Phase.Gives env db phase grant)
    (under : Phase.Under grant next) :
    devices.note env device now fresh db.tokens phase next = devices := by
  cases under <;> cases gives <;> rfl

theorem harmless_throws (error : AuthError) :
    Harmless env db db devices
      (devices.note env device now fresh db.tokens phase (.throws error)) := by
  cases phase with
  | revokeSessions update written =>
      exact harmless_endSessions _ rfl fun _ present _ => present
  | _ => exact .refl env db devices

/-- Where no token is written, at most the end of sessions is noted. -/
theorem Devices.note_of_plain
    (devices : Devices)
    (env : AuthEnv)
    (device now : Nat)
    (fresh : Fresh)
    (tokens : Tokens)
    {phase : Phase}
    (next : Phase)
    (plain : phase.plain = true) :
    devices.note env device now fresh tokens phase next = devices ∨
      ∃ user : User, devices.note env device now fresh tokens phase next =
        devices.endSessions tokens now user.id := by
  cases phase with
  | resetTransaction user passwordHash =>
      cases next with
      | recordReset written => exact Or.inr ⟨user, rfl⟩
      | done outcome => cases outcome <;> exact Or.inl rfl
      | _ => exact Or.inl rfl
  | _ =>
      first
        | contradiction
        | (cases next with
          | done outcome => cases outcome <;> exact Or.inl rfl
          | _ => exact Or.inl rfl)

theorem harmless_plain
    (next : Phase)
    (plain : phase.plain = true)
    (sameTokens : after.tokens = db.tokens)
    (recorded : after.audit = db.audit ∨ ∃ event, event.action ≠ reuseDetected ∧
      after.audit = db.audit ++ [event]) :
    Harmless env db after devices
      (devices.note env device now fresh db.tokens phase next) := by
  have unrecorded : ∀ event ∈ after.audit, event.action = reuseDetected →
      event ∈ db.audit := by
    rcases recorded with same | ⟨event, different, appended⟩
    · rw [same]
      exact fun event present _ => present
    · rw [appended]
      exact unrecorded_record different
  rcases devices.note_of_plain env device now fresh db.tokens next plain with
    same | ⟨user, endsSessions⟩
  · rw [same]
    refine ⟨?_, fun _ _ isHeld => Or.inl isHeld, unrecorded⟩
    rw [sameTokens]
    exact .kept rfl rfl fun _ present => present
  · rw [endsSessions]
    exact harmless_endSessions user.id sameTokens unrecorded

/-- What a call that is not a refresh does. -/
theorem harmless_of_notRefresh
    (moves : Phase.Moves env now fresh db phase after next)
    (notRefresh : phase.ofRefresh = false)
    (returning : ∀ session ∈ phase.returning,
      env.sha256 session.refreshToken ∈ devices.issued) :
    Harmless env db after devices
        (devices.note env device now fresh db.tokens phase next) ∧
      ∀ session ∈ next.returning, env.sha256 session.refreshToken ∈
        (devices.note env device now fresh db.tokens phase next).issued := by
  cases moves with
  | ended outcome =>
      refine ⟨?_, fun session present => by contradiction⟩
      cases outcome <;> exact .refl env db devices
  | failed phase error =>
      exact ⟨harmless_throws error, fun session present => by contradiction⟩
  | quiet plain tokenless sameTokens sameAccounts recorded =>
      rw [Phase.returning_of_tokenless tokenless]
      exact ⟨harmless_plain next plain sameTokens recorded,
        fun session present => by contradiction⟩
  | looked dto ip tenant =>
      exact ⟨.refl env db devices, fun session present => by contradiction⟩
  | granted gives under =>
      rw [Devices.note_granted devices env device now fresh gives under]
      refine ⟨.refl env db devices, ?_⟩
      intro session present
      cases under <;> contradiction
  | rotated grant stored revoked => contradiction
  | created grant created =>
      have creates := Tokens.creates_of_create created
      cases origin : grant.origin with
      | login ip =>
          simp only [Grant.issued, origin]
          refine ⟨.ofTokens (.issued _ creates rfl rfl rfl rfl) rfl rfl, ?_⟩
          rintro session ⟨⟩
          exact List.mem_cons_self
      | refresh stored =>
          simp [Phase.ofRefresh, Origin.isRefresh, origin] at notRefresh
  | recordedLogin grant ip session event different =>
      refine ⟨⟨.kept rfl rfl fun _ present => present, ?_, ?_⟩,
        fun session present => by contradiction⟩
      · exact given_hand device (returning session rfl)
      · exact unrecorded_record different
  | detected tenantId found revoked late => contradiction
  | revokedReused stored tenantId => contradiction
  | recordedReuse stored tenantId count event => contradiction
  | loggedOut rawToken =>
      refine ⟨.ofTokens (.spent _ now (env.sha256 rawToken) ?_) rfl rfl,
        fun session present => by contradiction⟩
      intro token _ meant
      simp only [Tokens.ofHash, Bool.and_eq_true, decide_eq_true_eq] at meant
      exact meant.1
  | reset user passwordHash =>
      exact ⟨.ofTokens (.ended user.id now) rfl rfl,
        fun session present => by contradiction⟩
  | wrote update written =>
      have unissued : (update.written written).returning = none := by
        unfold UserUpdate.written
        split
        · rfl
        · exact Phase.returning_of_tokenless (update.tokenless_revoked written)
      have unnoted : devices.note env device now fresh db.tokens
          (.writeUser update) (update.written written) = devices := by
        unfold Devices.note
        split <;> first | rfl | contradiction
      rw [unnoted, unissued]
      exact ⟨.ofTokens (.kept rfl rfl fun _ present => present) rfl rfl,
        fun session present => by contradiction⟩
  | endedSessions update written tokenless =>
      rw [Phase.returning_of_tokenless tokenless]
      exact ⟨.ofTokens (.ended update.existing.id now) rfl rfl,
        fun session present => by contradiction⟩

/-- What a refresh by an honest device does, and where it stands then. -/
theorem presenting_moves
    (presenting : Presenting env db.tokens devices rawToken phase)
    (moves : Phase.Moves env now fresh db phase after next)
    (accounted : Accounted db.tokens devices)
    (inTime : ∀ rawToken ∈ phase.presenting, ∀ token ∈ db.tokens.rows,
      token.tokenHash = env.sha256 rawToken →
        ∀ revocation ∈ devices.bulk, token.id ∈ revocation.ended →
          now < revocation.time + REFRESH_REUSE_GRACE_MS) :
    Harmless env db after devices
        (devices.note env device now fresh db.tokens phase next) ∧
      Presenting env after.tokens
        (devices.note env device now fresh db.tokens phase next) rawToken
        next := by
  have failing : ∀ error, Harmless env db db devices
        (devices.note env device now fresh db.tokens phase (.throws error)) ∧
      Presenting env db.tokens
        (devices.note env device now fresh db.tokens phase (.throws error))
        rawToken (.throws error) :=
    fun error => ⟨harmless_throws error, .ended _⟩
  cases presenting with
  | asked isIssued notSpent =>
      cases moves with
      | failed _ error => exact failing error
      | quiet plain => contradiction
      | granted gives under =>
          cases gives with
          | refresh found account isUnrevoked =>
              have present := db.tokens.byHash.mem_of_find? found
              have presented : Presented env db.tokens rawToken _ :=
                ⟨db.tokens.byHash.key_of_find? found, _, present, rfl, rfl⟩
              rw [Devices.note_granted devices env device now fresh
                (.refresh found account isUnrevoked) under]
              exact ⟨.refl env db devices, .checked rfl presented under⟩
      | detected tenantId found revoked late =>
          -- only a bulk revocation can have ended the token, and not so long ago
          have present := db.tokens.byHash.mem_of_find? found
          have isHash := db.tokens.byHash.key_of_find? found
          obtain ⟨revocation, isBulk, isEnded, atTime⟩ :=
            accounted _ present (isHash ▸ isIssued) (isHash ▸ notSpent) _
              revoked
          have early := inTime rawToken rfl _ present isHash revocation isBulk
            isEnded
          omega
  | checked origin presented under =>
      cases under with
      | findApp tenant clientId =>
          cases moves with
          | failed _ error => exact failing error
          | quiet plain => contradiction
          | granted gives goesOn =>
              rw [Devices.note_granted devices env device now fresh gives
                goesOn]
              cases gives
              exact ⟨.refl env db devices, .checked origin presented goesOn⟩
      | findEnablement tenant app =>
          cases moves with
          | failed _ error => exact failing error
          | quiet plain => contradiction
          | granted gives goesOn =>
              rw [Devices.note_granted devices env device now fresh gives
                goesOn]
              cases gives
              exact ⟨.refl env db devices, .checked origin presented goesOn⟩
      | rotate sameOrigin =>
          rw [origin, Origin.refresh.injEq] at sameOrigin
          subst sameOrigin
          cases moves with
          | failed _ error => exact failing error
          | quiet plain => contradiction
          | granted gives goesOn => cases gives
          | rotated _ _ revoked =>
              obtain ⟨_, rfl⟩ := Tokens.of_revokeById revoked
              obtain ⟨_, row, rowPresent, sameId, sameHash⟩ := presented
              refine ⟨.ofTokens (.spent _ now _ ?_) rfl rfl, .rotated origin⟩
              intro token present meant
              rw [decide_eq_true_eq, ← sameId] at meant
              rw [Tokens.eq_of_id present rowPresent meant, sameHash]
      | createToken isLogin =>
          rw [origin] at isLogin
          contradiction
  | rotated origin =>
      cases moves with
      | failed _ error => exact failing error
      | quiet plain => contradiction
      | granted gives goesOn => cases gives
      | created grant created =>
          have creates := Tokens.creates_of_create created
          rw [Grant.issued, origin]
          refine ⟨⟨.issued _ creates rfl rfl rfl rfl, ?_,
            fun _ present _ => present⟩, .ended _⟩
          exact given_hand device List.mem_cons_self
  | ended outcome =>
      cases moves with
      | ended outcome =>
          refine ⟨?_, .ended outcome⟩
          cases outcome <;> exact .refl env db devices
      | failed _ error => exact failing error
      | quiet plain => contradiction
      | granted gives goesOn => cases gives

/-- The next statement of a refresh by an honest device touches no other
token. -/
theorem Presenting.spares
    (presenting : Presenting env db.tokens devices rawToken phase)
    {token : RefreshToken}
    (present : token ∈ db.tokens.rows)
    (different : token.tokenHash ≠ env.sha256 rawToken) :
    token ∈ (phase.step env now fresh db).1.tokens.rows := by
  cases presenting with
  | asked isIssued notSpent => exact present
  | checked origin presented under =>
      cases under with
      | findApp tenant clientId => exact present
      | findEnablement tenant app => exact present
      | rotate sameOrigin =>
          rw [origin, Origin.refresh.injEq] at sameOrigin
          subst sameOrigin
          simp only [Phase.step]
          split
          · exact present
          · rename_i tokens revoked
            obtain ⟨_, rfl⟩ := Tokens.of_revokeById revoked
            obtain ⟨isHash, row, rowPresent, sameId, sameHash⟩ := presented
            refine Tokens.mem_revoke_iff.mpr ⟨token, present, ?_⟩
            unfold Tokens.revokedIf
            rw [if_neg]
            rw [decide_eq_true_eq, ← sameId]
            intro isRow
            apply different
            rw [Tokens.eq_of_id present rowPresent isRow, sameHash, isHash]
      | createToken isLogin =>
          rw [origin] at isLogin
          contradiction
  | rotated origin =>
      simp only [Phase.step]
      split
      · exact present
      · rename_i tokens created
        exact (Tokens.creates_of_create created).mem_iff.mpr (Or.inl present)
  | ended outcome => exact present

end Mover

/-! ## Runs -/

/-- What holds of the database and the devices. -/
structure Peaceful (env : AuthEnv) (before : List AuditEvent) (db : AuthDb)
    (devices : Devices) : Prop where
  accounted : Accounted db.tokens devices
  /-- A device holds only what it was issued. -/
  held : ∀ device rawToken, devices.held device = some rawToken →
    env.sha256 rawToken ∈ devices.issued
  unrecorded : ∀ event ∈ db.audit, event.action = reuseDetected →
    event ∈ before

section Peaceful

variable {env : AuthEnv} {before : List AuditEvent} {db after : AuthDb}
  {devices noted : Devices}

theorem DeviceEffect.issued_of_issued
    {tokens created : Tokens}
    (effect : DeviceEffect tokens devices created noted)
    {tokenHash : String}
    (isIssued : tokenHash ∈ devices.issued) :
    tokenHash ∈ noted.issued := by
  cases effect with
  | kept _ sameIssued => exact sameIssued ▸ isIssued
  | spent doomed now tokenHash => exact isIssued
  | issued token _ _ _ isNoted =>
      rw [isNoted]
      exact List.mem_cons_of_mem _ isIssued
  | ended userId now => exact isIssued

theorem Peaceful.kept
    (peaceful : Peaceful env before db devices)
    (harmless : Harmless env db after devices noted) :
    Peaceful env before after noted where
  accounted := harmless.effect.accounted peaceful.accounted
  held device rawToken isHeld := by
    rcases harmless.given device rawToken isHeld with heldBefore | isIssued
    · exact harmless.effect.issued_of_issued
        (peaceful.held device rawToken heldBefore)
    · exact isIssued
  unrecorded event present isReuse :=
    peaceful.unrecorded event (harmless.unrecorded event present isReuse)
      isReuse

end Peaceful

/-- A call that has ended stays trusted, whatever happens. -/
theorem trusted_of_isDone
    {env : AuthEnv}
    {db : AuthDb}
    {devices : Devices}
    {call : Call}
    (isDone : call.phase.isDone = true) :
    Trusted env db devices call := by
  obtain ⟨device, request, phase⟩ := call
  cases phase with
  | done outcome =>
      unfold Trusted
      split
      · exact .ended outcome
      · exact ⟨rfl, fun session present => by contradiction⟩
  | _ => contradiction

theorem trusted_begins
    {env : AuthEnv}
    {before : List AuditEvent}
    {pool : Pool AuthDb Call}
    {devices : Devices}
    {request : Nat × Request}
    (peaceful : Peaceful env before pool.data devices)
    (honest : Honest env (pool, devices) (.start request)) :
    Trusted env pool.data devices ((sessions env).begins request) := by
  obtain ⟨device, request⟩ := request
  have unissued : ∀ request : Request,
      (request.begins env).returning = none := by
    intro request
    cases request with
    | login dto ip =>
        simp only [Request.begins]
        split <;> rfl
    | resetPassword token password =>
        simp only [Request.begins]
        split <;> rfl
    | _ => rfl
  simp only [Trusted, sessions]
  cases request with
  | refresh rawToken =>
      obtain ⟨_, mayStart⟩ := honest
      simp only [Devices.mayStart, Bool.and_eq_true, decide_eq_true_eq,
        Bool.not_eq_true', List.contains_eq_mem, decide_eq_false_iff_not]
        at mayStart
      exact .asked (peaceful.held device rawToken mayStart.1) mayStart.2
  | _ =>
      refine ⟨ofRefresh_begins env (fun _ => by simp), ?_⟩
      intro session present
      rw [unissued] at present
      contradiction

theorem peaceful_advance
    {env : AuthEnv}
    {before : List AuditEvent}
    {pool : Pool AuthDb Call}
    {devices : Devices}
    {index : Nat}
    {input : Nat × Fresh}
    {call : Call}
    (peaceful : Peaceful env before pool.data devices)
    (trusted : Trusted env pool.data devices call)
    (inTime : InTime env (pool, devices) (.advance index input))
    (present : pool.calls[index]? = some call) :
    Peaceful env before ((sessions env).step input pool.data call).1
        (observeDevices env devices index input pool.data call) ∧
      Trusted env ((sessions env).step input pool.data call).1
        (observeDevices env devices index input pool.data call)
        ((sessions env).step input pool.data call).2 := by
  have moves := moves_step env input.1 input.2 pool.data call.phase
  have early := inTime call present
  obtain ⟨device, request, phase⟩ := call
  cases request with
  | refresh rawToken =>
      obtain ⟨harmless, presenting⟩ :=
        presenting_moves trusted moves peaceful.accounted early
      exact ⟨peaceful.kept harmless, presenting⟩
  | _ =>
      obtain ⟨harmless, returning⟩ :=
        harmless_of_notRefresh moves trusted.1 trusted.2
      exact ⟨peaceful.kept harmless, moves.ofRefresh trusted.1, returning⟩

/-- From any database: while honest devices call one after the other, and none
presents a token ten seconds or more after a bulk revocation has ended it, no
reuse is recorded, and no statement of a refresh touches another token. -/
theorem honest_devices_unpunished
    (env : AuthEnv)
    {db : AuthDb}
    {events : List (PoolEvent (Nat × Request) (Nat × Fresh))}
    {final : Pool AuthDb Call × Devices}
    (run : Run ((sessions env).watch (observeDevices env))
      (fun state event => Honest env state event ∧ InTime env state event)
      (⟨db, []⟩, Devices.start) events final) :
    (∀ event ∈ final.1.data.audit, event.action = reuseDetected →
      event ∈ db.audit) ∧
    ∀ call ∈ final.1.calls, ∀ rawToken, call.request = .refresh rawToken →
      ∀ input : Nat × Fresh, ∀ token ∈ final.1.data.tokens.rows,
        token.tokenHash ≠ env.sha256 rawToken → token ∈
          ((sessions env).step input final.1.data call).1.tokens.rows := by
  have holds : Program.InTurn (fun call => call.phase.isDone)
      (Peaceful env db.audit) (Trusted env) final := by
    apply Program.inTurn _ _ _ _ _ _ run
    · refine ⟨⟨?_, ?_, fun event present _ => present⟩, ?_, ?_⟩
      · intro token present isIssued
        contradiction
      · intro device rawToken isHeld
        contradiction
      · intro index call present
        contradiction
      · intro left right leftCall rightCall present
        contradiction
    · intro state request allowed
      exact allowed.1.1
    · intro devices index input data call isDone
      obtain ⟨device, request, phase⟩ := call
      cases phase with
      | done outcome => cases outcome <;> exact ⟨rfl, rfl⟩
      | _ => contradiction
    · intro data devices after noted call isDone _
      exact trusted_of_isDone isDone
    · intro pool devices request holds allowed
      exact trusted_begins holds.ofData allowed.1
    · intro pool devices index input call holds allowed present
      exact peaceful_advance holds.ofData (holds.ofCall index call present)
        allowed.2 present
    · intro data devices call _
      exact ⟨rfl, trusted_of_isDone rfl⟩
  refine ⟨holds.ofData.unrecorded, ?_⟩
  intro call isCall rawToken isRefresh input token present different
  obtain ⟨index, atIndex⟩ := List.mem_iff_getElem?.mp isCall
  have trusted := holds.ofCall index call atIndex
  simp only [Trusted, isRefresh] at trusted
  exact trusted.spares present different

/-! ## A reset of the password -/

/-- Device 0 signs in, and a reset ends its session. -/
def resetAfterLogin : List (PoolEvent (Nat × Request) (Nat × Fresh)) :=
  [.start (0, .login ⟨none, "a@b.co", "secret", none⟩ none),
    statementAt 1000 0 "" "", statementAt 1000 0 "" "",
    statementAt 1000 0 "k1" "raw1", statementAt 1000 0 "" "",
    .start (1, .resetPassword "u1" "new"), statementAt 2000 1 "" "",
    statementAt 2000 1 "" "", statementAt 2000 1 "" "",
    statementAt 2000 1 "" ""]

/-- The device refreshes at once, and is only refused. -/
theorem honest_devices_unpunished_atOnce :
    ∃ final, Run ((sessions plainEnv).watch (observeDevices plainEnv))
        (fun state event => Honest plainEnv state event ∧
          InTime plainEnv state event)
        (⟨demoSessions .empty, []⟩, Devices.start)
        (resetAfterLogin ++ [.start (0, .refresh "raw1"),
          statementAt 3000 2 "" ""]) final ∧
      ∀ event ∈ final.1.data.audit, event.action ≠ reuseDetected := by
  obtain ⟨final, run, _⟩ := Run.exists_of_execute
    ((sessions plainEnv).watch (observeDevices plainEnv))
    (fun state event => decide (Honest plainEnv state event ∧
      InTime plainEnv state event))
    (fun _ _ passed => of_decide_eq_true passed)
    (⟨demoSessions .empty, []⟩, Devices.start)
    (resetAfterLogin ++ [.start (0, .refresh "raw1"),
      statementAt 3000 2 "" ""]) (fun _ => true) (by decide +kernel)
  refine ⟨final, run, ?_⟩
  intro event present isReuse
  have before := (honest_devices_unpunished plainEnv run).1 event present isReuse
  simp [demoSessions] at before

/-- The device presents its token eleven seconds after the reset: a reuse is
recorded, and the session that another device has begun since is ended. -/
theorem honestDevice_punished_afterReset :
    ∃ final, Run ((sessions plainEnv).watch (observeDevices plainEnv))
        (Honest plainEnv) (⟨demoSessions .empty, []⟩, Devices.start)
        (resetAfterLogin ++
          [.start (1, .login ⟨none, "a@b.co", "new", none⟩ none),
            statementAt 3000 2 "" "", statementAt 3000 2 "" "",
            statementAt 3000 2 "k2" "raw2", statementAt 3000 2 "" "",
            .start (0, .refresh "raw1"), statementAt 13000 3 "" "",
            statementAt 13000 3 "" "", statementAt 13000 3 "" ""]) final ∧
      (final.1.data.audit.any fun event =>
        event.action = "auth.refresh_reuse_detected") = true ∧
      (final.1.data.tokens.rows.map fun token =>
        (token.tokenHash, token.revokedAt)) =
          [("raw1", some 2000), ("raw2", some 13000)] := by
  obtain ⟨final, run, punished⟩ := Run.exists_of_execute
    ((sessions plainEnv).watch (observeDevices plainEnv))
    (fun state event => decide (Honest plainEnv state event))
    (fun _ _ passed => of_decide_eq_true passed)
    (⟨demoSessions .empty, []⟩, Devices.start)
    (resetAfterLogin ++
      [.start (1, .login ⟨none, "a@b.co", "new", none⟩ none),
        statementAt 3000 2 "" "", statementAt 3000 2 "" "",
        statementAt 3000 2 "k2" "raw2", statementAt 3000 2 "" "",
        .start (0, .refresh "raw1"), statementAt 13000 3 "" "",
        statementAt 13000 3 "" "", statementAt 13000 3 "" ""])
    (fun state => (state.1.data.audit.any fun event =>
        event.action = "auth.refresh_reuse_detected") &&
      decide ((state.1.data.tokens.rows.map fun token =>
        (token.tokenHash, token.revokedAt)) =
          [("raw1", some 2000), ("raw2", some 13000)]))
    (by decide +kernel)
  simp only [Bool.and_eq_true, decide_eq_true_eq] at punished
  exact ⟨final, run, punished⟩

end Auth
end EvoPlatform
