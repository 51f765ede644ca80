import EvoPlatform.Auth.Sessions

/-!
# Revocations

A logout, a change of a password and the detection of a reuse end sessions with
one statement.  A ledger beside the calls notes how every token came to be, which
password a login has read, and which revocations were made.  Revocations are
final as long as no call that they are about is between its read and its insert.
-/

namespace EvoPlatform
namespace Auth

/-! ## The ledger -/

/-- How a refresh token came to be. -/
structure Line where
  /-- The ids of the tokens that it descends from by rotation. -/
  ancestors : List String
  /-- The user whose login began the line, with the number of the password that
  was verified. -/
  login : Option (String × Nat)

/-- A revocation that was made. -/
structure Revocation where
  /-- The user whose sessions were ended, unless a token was logged out. -/
  userId : Option String
  /-- The ids of the tokens that were stored then. -/
  ended : List String
  /-- The passwords with a lower number were replaced. -/
  password : Nat

/-- A token of this line is not to be used after a revocation. -/
def Line.EndedBy (line : Line) (revocation : Revocation) : Prop :=
  (∃ ancestor ∈ line.ancestors, ancestor ∈ revocation.ended) ∨
    ∃ login ∈ line.login,
      revocation.userId = some login.1 ∧ login.2 < revocation.password

instance (line : Line) (revocation : Revocation) :
    Decidable (line.EndedBy revocation) :=
  inferInstanceAs (Decidable ((∃ ancestor ∈ line.ancestors, _) ∨
    ∃ login ∈ line.login, _ ∧ _))

/-- What is noted beside the calls. -/
structure Ledger where
  /-- By the id of the token. -/
  lines : String → Line
  /-- How often the password of a user was written. -/
  passwords : String → Nat
  /-- The number of the password that a login has read. -/
  read : Nat → Nat
  /-- The number of the password that an update has written. -/
  written : Nat → Nat
  revocations : List Revocation

namespace Phase

/-- The grant for which a call is to issue a session. -/
def grant : Phase → Option Grant
  | .findApp grant _ _ | .findEnablement grant _ _ | .rotate grant _
  | .createToken grant => some grant
  | _ => none

/-- The stored token for which a refresh is to issue a session. -/
def presented (phase : Phase) : Option RefreshToken :=
  phase.grant.bind fun grant =>
    match grant.origin with
    | .login _ => none
    | .refresh stored => some stored

/-- The user for whom a login is to issue a session. -/
def signingIn : Phase → Option User
  | .comparePassword _ _ _ user => user
  | phase => phase.grant.bind fun grant =>
      if grant.origin.isRefresh then none else some grant.user

/-- The update that has written a password and is to end the sessions. -/
def replacing : Phase → Option UserUpdate
  | .revokeSessions update _ =>
      if update.dto.newPassword.isSome then some update else none
  | _ => none

/-- The statement has failed. -/
def failed : Phase → Bool
  | .done (.error _) => true
  | _ => false

end Phase

namespace Ledger

variable (ledger : Ledger)

/-- Nothing is known of the tokens that are there. -/
def start : Ledger := ⟨fun _ => ⟨[], none⟩, fun _ => 0, fun _ => 0, fun _ => 0, []⟩

/-- A token is not to be used after a revocation. -/
def Ends (revocation : Revocation) (id : String) : Prop :=
  id ∈ revocation.ended ∨ (ledger.lines id).EndedBy revocation

instance (revocation : Revocation) (id : String) :
    Decidable (ledger.Ends revocation id) :=
  inferInstanceAs (Decidable (_ ∨ _))

/-- A login reads a user. -/
def noteRead (index : Nat) (userId : String) : Ledger :=
  { ledger with
    read := Function.update ledger.read index (ledger.passwords userId) }

/-- A call writes the password of a user. -/
def notePassword (index : Nat) (userId : String) : Ledger :=
  { ledger with
    passwords := Function.update ledger.passwords userId
      (ledger.passwords userId + 1)
    written := Function.update ledger.written index
      (ledger.passwords userId + 1) }

/-- A token is created. -/
def noteLine (id : String) (line : Line) : Ledger :=
  { ledger with lines := Function.update ledger.lines id line }

/-- The line of a token that a call creates. -/
def line (index : Nat) (grant : Grant) : Line :=
  match grant.origin with
  | .login _ => ⟨[], some (grant.user.id, ledger.read index)⟩
  | .refresh stored =>
      ⟨stored.id :: (ledger.lines stored.id).ancestors,
        (ledger.lines stored.id).login⟩

/-- The sessions of a user end, and one of their passwords is replaced. -/
def endsSessions (tokens : Tokens) (userId : String) (password : Nat) :
    Revocation where
  userId := some userId
  ended := (tokens.rows.filter fun token => token.userId = userId).map
    RefreshToken.id
  password := password

/-- A token is logged out. -/
def logsOut (tokens : Tokens) (tokenHash : String) : Revocation where
  userId := none
  ended := (tokens.rows.filter fun token => token.tokenHash = tokenHash).map
    RefreshToken.id
  password := 0

/-- The revocation that the next statement of a call makes. -/
def revoking (env : AuthEnv) (index : Nat) (tokens : Tokens) :
    Phase → Option Revocation
  | .revokePresented rawToken => some (logsOut tokens (env.sha256 rawToken))
  | .resetTransaction user _ =>
      some (endsSessions tokens user.id (ledger.passwords user.id + 1))
  | .revokeSessions update _ =>
      if update.dto.newPassword.isSome then
        some (endsSessions tokens update.existing.id (ledger.written index))
      else none
  | .revokeReused stored _ => some (endsSessions tokens stored.userId 0)
  | _ => none

/-- What is noted of a statement besides a revocation, from where it leads. -/
def noteStatement (index : Nat) (fresh : Fresh) : Phase → Phase → Ledger
  | .findUser .., .comparePassword _ _ _ (some user) =>
      ledger.noteRead index user.id
  | .createToken grant, _ => ledger.noteLine fresh.id (ledger.line index grant)
  | .resetTransaction user _, _ => ledger.notePassword index user.id
  | .writeUser update, _ =>
      if update.dto.newPassword.isSome then
        ledger.notePassword index update.existing.id
      else ledger
  | _, _ => ledger

/-- What is noted of a statement that has not failed. -/
def note (env : AuthEnv) (index : Nat) (fresh : Fresh) (tokens : Tokens)
    (phase next : Phase) : Ledger :=
  if next.failed then ledger
  else
    { ledger.noteStatement index fresh phase next with
      revocations := (ledger.revoking env index tokens phase).toList ++
        ledger.revocations }

/-- What is noted of a statement of a call. -/
def observe (env : AuthEnv) (ledger : Ledger) (index : Nat)
    (input : Nat × Fresh) (db : AuthDb) (call : Call) : Ledger :=
  ledger.note env index input.2 db.tokens call.phase
    (call.phase.step env input.1 input.2 db).2

/-- No refresh of a token that a revocation is about, and no login with a
password that it has replaced, is still to insert its token; and of a token that
is logged out, no descendant is unrevoked. -/
structure Unopposed (calls : List Call) (tokens : Tokens)
    (revocation : Revocation) : Prop where
  refreshes : ∀ call ∈ calls, ∀ stored ∈ call.phase.presented,
    ¬ ledger.Ends revocation stored.id
  logins : ∀ entry ∈ calls.zipIdx, ∀ user ∈ entry.1.phase.signingIn,
    revocation.userId = some user.id →
      revocation.password ≤ ledger.read entry.2
  descendants : revocation.userId = none → ∀ token ∈ tokens.rows,
    ledger.Ends revocation token.id →
      token.id ∈ revocation.ended ∨ token.revokedAt ≠ none

instance (calls : List Call) (tokens : Tokens) (revocation : Revocation) :
    Decidable (ledger.Unopposed calls tokens revocation) :=
  decidable_of_iff
    ((∀ call ∈ calls, ∀ stored ∈ call.phase.presented,
        ¬ ledger.Ends revocation stored.id) ∧
      (∀ entry ∈ calls.zipIdx, ∀ user ∈ entry.1.phase.signingIn,
        revocation.userId = some user.id →
          revocation.password ≤ ledger.read entry.2) ∧
      (revocation.userId = none → ∀ token ∈ tokens.rows,
        ledger.Ends revocation token.id →
          token.id ∈ revocation.ended ∨ token.revokedAt ≠ none))
    ⟨fun held => ⟨held.1, held.2.1, held.2.2⟩,
      fun held => ⟨held.refreshes, held.logins, held.descendants⟩⟩

end Ledger

/-- Every revocation is made while no call stands against it. -/
def RevokesUnopposed (env : AuthEnv) (state : Pool AuthDb Call × Ledger) :
    PoolEvent (Nat × Request) (Nat × Fresh) → Prop
  | .advance index _ => ∀ call ∈ state.1.calls[index]?,
      ∀ revocation ∈ state.2.revoking env index state.1.data.tokens call.phase,
        state.2.Unopposed state.1.calls state.1.data.tokens revocation
  | _ => True

instance (env : AuthEnv) (state : Pool AuthDb Call × Ledger) :
    (event : PoolEvent (Nat × Request) (Nat × Fresh)) →
      Decidable (RevokesUnopposed env state event)
  | .advance index _ =>
      inferInstanceAs (Decidable (∀ call ∈ state.1.calls[index]?,
        ∀ revocation ∈
            state.2.revoking env index state.1.data.tokens call.phase,
          state.2.Unopposed state.1.calls state.1.data.tokens revocation))
  | .start _ => isTrue trivial
  | .abandon _ => isTrue trivial

/-! ## What the ledger says of the tokens -/

namespace Ledger

/-- A token has the user of those it descends from, and of the login with which
its line began. -/
structure Traced (ledger : Ledger) (tokens : Tokens) (line : Line)
    (userId : String) : Prop where
  ancestors : ∀ ancestor ∈ line.ancestors,
    ∃ old ∈ tokens.rows, old.id = ancestor ∧ old.userId = userId
  login : ∀ login ∈ line.login, login.1 = userId

/-- What the ledger says of the tokens is so. -/
structure Sound (ledger : Ledger) (tokens : Tokens) : Prop where
  traced : ∀ token ∈ tokens.rows,
    ledger.Traced tokens (ledger.lines token.id) token.userId
  /-- What a revocation was about is stored. -/
  stored : ∀ revocation ∈ ledger.revocations, ∀ id ∈ revocation.ended,
    ∃ token ∈ tokens.rows, token.id = id
  dated : ∀ revocation ∈ ledger.revocations, ∀ userId ∈ revocation.userId,
    revocation.password ≤ ledger.passwords userId
  /-- The revocations are final. -/
  final : ∀ revocation ∈ ledger.revocations, ∀ token ∈ tokens.rows,
    ledger.Ends revocation token.id → token.revokedAt ≠ none

/-- What a statement of a call can do to the tokens and the ledger. -/
inductive Bookkeeping (index : Nat) (tokens : Tokens) (ledger : Ledger) :
    Tokens → Ledger → Prop
  | kept : Bookkeeping index tokens ledger tokens ledger
  | read (userId : String) :
      Bookkeeping index tokens ledger tokens (ledger.noteRead index userId)
  | replaced (userId : String) :
      Bookkeeping index tokens ledger tokens (ledger.notePassword index userId)
  | dropped (doomed : RefreshToken → Bool) (now : Nat) :
      Bookkeeping index tokens ledger (tokens.revoke doomed now) ledger
  | ended {noted : Ledger} (revocation : Revocation)
      (doomed : RefreshToken → Bool) (now : Nat) :
      (noted = ledger ∨ ∃ userId, noted = ledger.notePassword index userId) →
      (∀ id ∈ revocation.ended, ∃ token ∈ tokens.rows, token.id = id) →
      (∀ userId ∈ revocation.userId,
        revocation.password ≤ noted.passwords userId) →
      (∀ token ∈ tokens.rows, ledger.Ends revocation token.id →
        doomed token = true ∨ token.revokedAt ≠ none) →
      Bookkeeping index tokens ledger (tokens.revoke doomed now)
        { noted with revocations := revocation :: ledger.revocations }
  | issued {created : Tokens} (token : RefreshToken) (line : Line) :
      Tokens.Creates tokens created token →
      ledger.Traced tokens line token.userId →
      (∀ revocation ∈ ledger.revocations, ¬ line.EndedBy revocation) →
      Bookkeeping index tokens ledger created (ledger.noteLine token.id line)

section Effect

variable {index : Nat} {tokens after : Tokens} {ledger noted : Ledger}

theorem Traced.extends
    {line : Line}
    {userId : String}
    (traced : ledger.Traced tokens line userId)
    (longer : tokens.Extends after) :
    noted.Traced after line userId := by
  refine ⟨?_, traced.login⟩
  intro ancestor isAncestor
  obtain ⟨old, present, isId, isUser⟩ := traced.ancestors ancestor isAncestor
  obtain ⟨kept, keptPresent, sameId, _, sameUser⟩ := longer old present
  exact ⟨kept, keptPresent, sameId.trans isId, sameUser.trans isUser⟩

/-- Only tokens are created, and no other line is written. -/
theorem Bookkeeping.extends
    (keeping : Bookkeeping index tokens ledger after noted) :
    tokens.Extends after := by
  cases keeping with
  | kept => exact .refl tokens
  | read userId => exact .refl tokens
  | replaced userId => exact .refl tokens
  | dropped doomed now => exact Tokens.extends_revoke doomed now
  | ended revocation doomed now => exact Tokens.extends_revoke doomed now
  | issued token line creates => exact creates.extends

theorem Bookkeeping.lines
    (keeping : Bookkeeping index tokens ledger after noted)
    {token : RefreshToken}
    (present : token ∈ tokens.rows) :
    noted.lines token.id = ledger.lines token.id := by
  cases keeping with
  | kept => rfl
  | read userId => rfl
  | replaced userId => rfl
  | dropped doomed now => rfl
  | ended revocation doomed now isNoted =>
      rcases isNoted with rfl | ⟨_, rfl⟩ <;> rfl
  | issued created line creates =>
      exact Function.update_of_ne (creates.newId token present) _ _

/-- What a revocation is about among the stored tokens stays so. -/
theorem Bookkeeping.ends_iff
    (keeping : Bookkeeping index tokens ledger after noted)
    {token : RefreshToken}
    (present : token ∈ tokens.rows)
    (revocation : Revocation) :
    noted.Ends revocation token.id ↔ ledger.Ends revocation token.id := by
  unfold Ends
  rw [keeping.lines present]

theorem Sound.revoke
    (sound : ledger.Sound tokens)
    (doomed : RefreshToken → Bool)
    (now : Nat) :
    ledger.Sound (tokens.revoke doomed now) where
  traced := by
    intro token present
    obtain ⟨old, oldPresent, sameId, _, sameUser, _⟩ :=
      Tokens.revokedAt_of_mem_revoke present
    rw [← sameId, ← sameUser]
    exact (sound.traced old oldPresent).extends
      (Tokens.extends_revoke doomed now)
  stored := by
    intro revocation isNoted id isEnded
    obtain ⟨token, present, rfl⟩ := sound.stored revocation isNoted id isEnded
    exact ⟨_, Tokens.mem_revoke_iff.mpr ⟨token, present, rfl⟩, by simp⟩
  dated := sound.dated
  final := by
    intro revocation isNoted token present ends
    obtain ⟨old, oldPresent, sameId, _, _, isOld | ⟨_, revoked⟩⟩ :=
      Tokens.revokedAt_of_mem_revoke present
    · rw [isOld]
      exact sound.final revocation isNoted old oldPresent
        (by rw [sameId]; exact ends)
    · rw [revoked]
      exact Option.some_ne_none now

theorem Sound.notePassword
    (sound : ledger.Sound tokens)
    (index : Nat)
    (userId : String) :
    (ledger.notePassword index userId).Sound tokens where
  traced := fun token present =>
    (sound.traced token present).extends (.refl tokens)
  stored := sound.stored
  dated := by
    intro revocation isNoted other isUser
    have before := sound.dated revocation isNoted other isUser
    simp only [Ledger.notePassword, Function.update_apply]
    split
    · rename_i same
      rw [same] at before
      omega
    · exact before
  final := sound.final

/-- A new revocation is made. -/
theorem Sound.ended
    (sound : ledger.Sound tokens)
    {revocation : Revocation}
    {doomed : RefreshToken → Bool}
    (now : Nat)
    (isStored : ∀ id ∈ revocation.ended, ∃ token ∈ tokens.rows, token.id = id)
    (isDated : ∀ userId ∈ revocation.userId,
      revocation.password ≤ ledger.passwords userId)
    (dooms : ∀ token ∈ tokens.rows, ledger.Ends revocation token.id →
      doomed token = true ∨ token.revokedAt ≠ none) :
    ({ ledger with revocations := revocation :: ledger.revocations } :
      Ledger).Sound (tokens.revoke doomed now) := by
  have before := sound.revoke doomed now
  refine ⟨fun token present =>
    (before.traced token present).extends (.refl _), ?_, ?_, ?_⟩
  · intro other isNoted id isEnded
    rcases List.mem_cons.mp isNoted with rfl | isOld
    · obtain ⟨token, present, rfl⟩ := isStored id isEnded
      exact ⟨_, Tokens.mem_revoke_iff.mpr ⟨token, present, rfl⟩, by simp⟩
    · exact before.stored other isOld id isEnded
  · intro other isNoted
    rcases List.mem_cons.mp isNoted with rfl | isOld
    · exact isDated
    · exact before.dated other isOld
  · intro other isNoted token present ends
    rcases List.mem_cons.mp isNoted with rfl | isOld
    · intro unrevoked
      obtain ⟨oldPresent, spared⟩ := Tokens.mem_of_mem_revoke present unrevoked
      rcases dooms token oldPresent ends with isDoomed | revoked
      · rw [spared] at isDoomed
        contradiction
      · exact revoked unrevoked
    · exact before.final other isOld token present ends

theorem Sound.issued
    (sound : ledger.Sound tokens)
    {token : RefreshToken}
    {line : Line}
    (creates : Tokens.Creates tokens after token)
    (isTraced : ledger.Traced tokens line token.userId)
    (unended : ∀ revocation ∈ ledger.revocations, ¬ line.EndedBy revocation) :
    (ledger.noteLine token.id line).Sound after := by
  have keeping : Bookkeeping 0 tokens ledger after
      (ledger.noteLine token.id line) :=
    .issued token line creates isTraced unended
  have ownLine : (ledger.noteLine token.id line).lines token.id = line :=
    Function.update_self _ _ _
  refine ⟨?_, ?_, sound.dated, ?_⟩
  · intro other present
    rcases creates.mem_iff.mp present with old | rfl
    · rw [keeping.lines old]
      exact (sound.traced other old).extends creates.extends
    · rw [ownLine]
      exact isTraced.extends creates.extends
  · intro revocation isNoted id isEnded
    obtain ⟨old, present, isId⟩ := sound.stored revocation isNoted id isEnded
    exact ⟨old, creates.mem_iff.mpr (Or.inl present), isId⟩
  · intro revocation isNoted other present ends
    rcases creates.mem_iff.mp present with old | rfl
    · exact sound.final revocation isNoted other old
        ((keeping.ends_iff old revocation).mp ends)
    · rcases ends with isEnded | endedBy
      · obtain ⟨old, oldPresent, isId⟩ :=
          sound.stored revocation isNoted _ isEnded
        exact absurd isId (creates.newId old oldPresent)
      · rw [ownLine] at endedBy
        exact absurd endedBy (unended revocation isNoted)

/-- Whatever a statement does, the ledger is kept. -/
theorem Sound.kept
    (sound : ledger.Sound tokens)
    (keeping : Bookkeeping index tokens ledger after noted) :
    noted.Sound after := by
  cases keeping with
  | kept => exact sound
  | read userId =>
      exact ⟨fun token present =>
        (sound.traced token present).extends (.refl tokens), sound.stored,
        sound.dated, sound.final⟩
  | replaced userId => exact sound.notePassword index userId
  | dropped doomed now => exact sound.revoke doomed now
  | ended revocation doomed now isNoted isStored isDated dooms =>
      rcases isNoted with rfl | ⟨userId, rfl⟩
      · exact sound.ended now isStored isDated dooms
      · exact (sound.notePassword index userId).ended now isStored isDated dooms
  | issued token line creates isTraced unended =>
      exact sound.issued creates isTraced unended

end Effect

/-! ## Where the calls stand -/

/-- No revocation is about a call, wherever it stands between its read and its
insert. -/
structure Vouched (ledger : Ledger) (tokens : Tokens) (index : Nat)
    (phase : Phase) : Prop where
  stored : ∀ stored ∈ phase.presented,
    ∃ token ∈ tokens.rows, token.id = stored.id ∧ token.userId = stored.userId
  refreshes : ∀ stored ∈ phase.presented,
    ∀ revocation ∈ ledger.revocations, ¬ ledger.Ends revocation stored.id
  logins : ∀ user ∈ phase.signingIn, ∀ revocation ∈ ledger.revocations,
    revocation.userId = some user.id → revocation.password ≤ ledger.read index
  updates : ∀ update ∈ phase.replacing,
    ledger.written index ≤ ledger.passwords update.existing.id
  users : ∀ grant ∈ phase.grant, ∀ stored, grant.origin = .refresh stored →
    grant.user.id = stored.userId

section Calls

variable {index other : Nat} {tokens after : Tokens} {ledger noted : Ledger}
  {phase next : Phase}

/-- A call that is to issue no session and to end none. -/
theorem vouched_of_idle
    (noGrant : phase.grant = none)
    (noLogin : phase.signingIn = none)
    (noUpdate : phase.replacing = none) :
    ledger.Vouched tokens index phase := by
  have noToken : phase.presented = none := by
    simp [Phase.presented, noGrant]
  constructor
  · simp [noToken]
  · simp [noToken]
  · simp [noLogin]
  · simp [noUpdate]
  · simp [noGrant]

theorem vouched_of_tokenless
    (tokenless : phase.tokenless = true) :
    ledger.Vouched tokens index phase := by
  cases phase <;> first
    | contradiction
    | exact vouched_of_idle rfl rfl rfl

/-- A call goes on with the same grant. -/
theorem Vouched.sameGrant
    (vouched : ledger.Vouched tokens index phase)
    (longer : tokens.Extends after)
    (sameGrant : next.grant = phase.grant)
    (sameUser : next.signingIn = phase.signingIn)
    (noUpdate : next.replacing = none) :
    ledger.Vouched after index next := by
  have sameToken : next.presented = phase.presented := by
    simp [Phase.presented, sameGrant]
  constructor
  · intro stored isPresented
    obtain ⟨token, present, isId, isUser⟩ :=
      vouched.stored stored (sameToken ▸ isPresented)
    obtain ⟨kept, keptPresent, sameId, _, keptUser⟩ := longer token present
    exact ⟨kept, keptPresent, sameId.trans isId, keptUser.trans isUser⟩
  · rw [sameToken]
    exact vouched.refreshes
  · rw [sameUser]
    exact vouched.logins
  · simp [noUpdate]
  · rw [sameGrant]
    exact vouched.users

theorem Bookkeeping.read_of_ne
    (keeping : Bookkeeping index tokens ledger after noted)
    (apart : other ≠ index) :
    noted.read other = ledger.read other := by
  cases keeping with
  | read userId => exact Function.update_of_ne apart _ _
  | ended revocation doomed now isNoted =>
      rcases isNoted with rfl | ⟨_, rfl⟩ <;> rfl
  | _ => rfl

theorem Bookkeeping.written_of_ne
    (keeping : Bookkeeping index tokens ledger after noted)
    (apart : other ≠ index) :
    noted.written other = ledger.written other := by
  cases keeping with
  | replaced userId => exact Function.update_of_ne apart _ _
  | ended revocation doomed now isNoted =>
      rcases isNoted with rfl | ⟨_, rfl⟩
      · rfl
      · exact Function.update_of_ne apart _ _
  | _ => rfl

theorem passwords_le_notePassword
    (ledger : Ledger)
    (index : Nat)
    (writer userId : String) :
    ledger.passwords userId ≤
      (ledger.notePassword index writer).passwords userId := by
  simp only [Ledger.notePassword, Function.update_apply]
  split
  · rename_i same
    rw [same]
    omega
  · exact Nat.le_refl _

/-- Passwords are counted upwards. -/
theorem Bookkeeping.passwords_le
    (keeping : Bookkeeping index tokens ledger after noted)
    (userId : String) :
    ledger.passwords userId ≤ noted.passwords userId := by
  cases keeping with
  | replaced writer => exact passwords_le_notePassword ledger index writer userId
  | ended revocation doomed now isNoted =>
      rcases isNoted with rfl | ⟨writer, rfl⟩
      · exact Nat.le_refl _
      · exact passwords_le_notePassword ledger index writer userId
  | _ => exact Nat.le_refl _

/-- A call stays vouched for, when no new revocation is about it. -/
theorem Vouched.undisturbed
    (vouched : ledger.Vouched tokens other phase)
    (keeping : Bookkeeping index tokens ledger after noted)
    (apart : other ≠ index)
    (unopposed : ∀ revocation ∈ noted.revocations,
      revocation ∈ ledger.revocations ∨
        (∀ stored ∈ phase.presented, ¬ ledger.Ends revocation stored.id) ∧
          ∀ user ∈ phase.signingIn, revocation.userId = some user.id →
            revocation.password ≤ ledger.read other) :
    noted.Vouched after other phase := by
  constructor
  · intro stored isPresented
    obtain ⟨token, present, isId, isUser⟩ := vouched.stored stored isPresented
    obtain ⟨kept, keptPresent, sameId, _, keptUser⟩ :=
      keeping.extends token present
    exact ⟨kept, keptPresent, sameId.trans isId, keptUser.trans isUser⟩
  · intro stored isPresented revocation isNoted ends
    obtain ⟨token, present, isId, _⟩ := vouched.stored stored isPresented
    rw [← isId, keeping.ends_iff present, isId] at ends
    rcases unopposed revocation isNoted with isOld | ⟨refreshes, _⟩
    · exact vouched.refreshes stored isPresented revocation isOld ends
    · exact refreshes stored isPresented ends
  · intro user signsIn revocation isNoted isUser
    rw [keeping.read_of_ne apart]
    rcases unopposed revocation isNoted with isOld | ⟨_, logins⟩
    · exact vouched.logins user signsIn revocation isOld isUser
    · exact logins user signsIn isUser
  · intro update isUpdate
    rw [keeping.written_of_ne apart]
    exact (vouched.updates update isUpdate).trans (keeping.passwords_le _)
  · exact vouched.users

end Calls

/-! ## What a call does -/

section Mover

variable {env : AuthEnv} {now index : Nat} {fresh : Fresh} {db after : AuthDb}
  {ledger : Ledger} {phase next : Phase}

/-- A statement that fails is not noted. -/
theorem note_of_failed
    (env : AuthEnv)
    (tokens : Tokens)
    (failed : next.failed = true) :
    ledger.note env index fresh tokens phase next = ledger := by
  rw [Ledger.note, if_pos failed]

/-- A statement that makes no revocation. -/
theorem note_of_unrevoking
    (tokens : Tokens)
    (unrevoking : ledger.revoking env index tokens phase = none)
    (succeeded : next.failed = false) :
    ledger.note env index fresh tokens phase next =
      { ledger.noteStatement index fresh phase next with
        revocations := ledger.revocations } := by
  rw [Ledger.note, succeeded, unrevoking]
  rfl

/-- A statement of which nothing is noted. -/
theorem note_of_unnoted
    (tokens : Tokens)
    (unrevoking : ledger.revoking env index tokens phase = none)
    (unnoted : ledger.noteStatement index fresh phase next = ledger) :
    ledger.note env index fresh tokens phase next = ledger := by
  cases failed : next.failed with
  | true => exact note_of_failed env tokens failed
  | false =>
      rw [note_of_unrevoking tokens unrevoking failed, unnoted]

/-- A statement that makes a revocation. -/
theorem note_of_revoking
    {revocation : Revocation}
    (tokens : Tokens)
    (revoking : ledger.revoking env index tokens phase = some revocation)
    (succeeded : next.failed = false) :
    ledger.note env index fresh tokens phase next =
      { ledger.noteStatement index fresh phase next with
        revocations := revocation :: ledger.revocations } := by
  rw [Ledger.note, succeeded, revoking]
  rfl

/-- A statement is noted, and the call is vouched for where it goes on. -/
def Advances (env : AuthEnv) (index : Nat) (fresh : Fresh) (ledger : Ledger)
    (db after : AuthDb) (phase next : Phase) : Prop :=
  Bookkeeping index db.tokens ledger after.tokens
      (ledger.note env index fresh db.tokens phase next) ∧
    (ledger.note env index fresh db.tokens phase next).Vouched after.tokens
      index next

/-- A statement that writes no token and of which nothing is noted. -/
theorem advances_of_unnoted
    (sameTokens : after.tokens = db.tokens)
    (unnoted : ledger.note env index fresh db.tokens phase next = ledger)
    (vouched : ledger.Vouched db.tokens index next) :
    Advances env index fresh ledger db after phase next := by
  unfold Advances
  rw [unnoted, sameTokens]
  exact ⟨.kept, vouched⟩

theorem advances_of_failed
    (env : AuthEnv)
    (fresh : Fresh)
    (ledger : Ledger)
    (db : AuthDb)
    (phase : Phase)
    (error : AuthError) :
    Advances env index fresh ledger db db phase (.throws error) :=
  advances_of_unnoted rfl (note_of_failed env db.tokens rfl)
    (vouched_of_idle rfl rfl rfl)

/-- Of a quiet statement, a new password may be noted. -/
theorem note_of_plain
    (tokens : Tokens)
    (plain : phase.plain = true)
    (notReset : ∀ user passwordHash,
      phase ≠ .resetTransaction user passwordHash)
    (tokenless : next.tokenless = true) :
    ledger.note env index fresh tokens phase next = ledger ∨
      ∃ userId, ledger.note env index fresh tokens phase next =
        ledger.notePassword index userId := by
  cases phase with
  | resetTransaction user passwordHash =>
      exact absurd rfl (notReset user passwordHash)
  | writeUser update =>
      cases failed : next.failed with
      | true => exact Or.inl (note_of_failed env tokens failed)
      | false =>
          rw [note_of_unrevoking tokens rfl failed]
          simp only [Ledger.noteStatement]
          split
          · exact Or.inr ⟨update.existing.id, rfl⟩
          · exact Or.inl rfl
  | findUser dto ip tenant =>
      refine Or.inl (note_of_unnoted tokens rfl ?_)
      cases next <;> first | rfl | contradiction
  | _ => first
    | contradiction
    | exact Or.inl (note_of_unnoted tokens rfl rfl)

/-- All tokens of a user are revoked, those of others are not meant. -/
theorem ends_endsSessions
    (sound : ledger.Sound db.tokens)
    {userId : String}
    {password : Nat}
    {token : RefreshToken}
    (present : token ∈ db.tokens.rows)
    (ends : ledger.Ends (endsSessions db.tokens userId password) token.id) :
    Tokens.ofUser userId token = true ∨ token.revokedAt ≠ none := by
  have traced := sound.traced token present
  have isUser : token.userId = userId := by
    have ofEnded : ∀ id ∈ (endsSessions db.tokens userId password).ended,
        ∃ old ∈ db.tokens.rows, old.id = id ∧ old.userId = userId := by
      intro id isEnded
      obtain ⟨old, isOld, rfl⟩ := List.mem_map.mp isEnded
      obtain ⟨oldPresent, isUser⟩ := List.mem_filter.mp isOld
      exact ⟨old, oldPresent, rfl, by simpa using isUser⟩
    rcases ends with isEnded | ⟨ancestor, isAncestor, isEnded⟩ |
      ⟨login, isLogin, sameUser, _⟩
    · obtain ⟨old, oldPresent, sameId, isUser⟩ := ofEnded _ isEnded
      rw [Tokens.eq_of_id present oldPresent sameId.symm, isUser]
    · obtain ⟨old, oldPresent, sameId, isUser⟩ := ofEnded _ isEnded
      obtain ⟨other, otherPresent, otherId, sameUser⟩ :=
        traced.ancestors ancestor isAncestor
      rw [← sameUser, Tokens.eq_of_id otherPresent oldPresent
        (otherId.trans sameId.symm), isUser]
    · rw [← traced.login login isLogin]
      exact (Option.some.inj sameUser).symm
  cases revoked : token.revokedAt with
  | none =>
      apply Or.inl
      simp [Tokens.ofUser, isUser, revoked]
  | some time => exact Or.inr (Option.some_ne_none time)

theorem stored_endsSessions
    (tokens : Tokens)
    (userId : String)
    (password : Nat) :
    ∀ id ∈ (endsSessions tokens userId password).ended,
      ∃ token ∈ tokens.rows, token.id = id := by
  intro id isEnded
  obtain ⟨token, isToken, isId⟩ := List.mem_map.mp isEnded
  exact ⟨token, List.mem_of_mem_filter isToken, isId⟩

/-- The sessions of a user are ended. -/
theorem bookkeeping_endsSessions
    (sound : ledger.Sound db.tokens)
    {noted : Ledger}
    (isNoted : noted = ledger ∨
      ∃ userId, noted = ledger.notePassword index userId)
    (userId : String)
    {password : Nat}
    (isDated : password ≤ noted.passwords userId) :
    Bookkeeping index db.tokens ledger
      (db.tokens.revoke (Tokens.ofUser userId) now)
      { noted with
        revocations :=
          endsSessions db.tokens userId password :: ledger.revocations } := by
  refine .ended _ _ now isNoted (stored_endsSessions _ _ _) ?_ ?_
  · rintro other ⟨⟩
    exact isDated
  · intro token present ends
    exact ends_endsSessions sound present ends

/-- A reset replaces the password and ends the sessions at once. -/
theorem advances_reset
    (sound : ledger.Sound db.tokens)
    (user : User)
    (passwordHash : String)
    (accounts : Accounts) :
    Advances env index fresh ledger db
      ({ db with accounts := accounts }.revokeMany (Tokens.ofUser user.id)
        now).1
      (.resetTransaction user passwordHash) (.recordReset user) := by
  unfold Advances
  rw [note_of_revoking db.tokens rfl rfl]
  refine ⟨bookkeeping_endsSessions sound (Or.inr ⟨user.id, rfl⟩) user.id ?_,
    vouched_of_idle rfl rfl rfl⟩
  simp [Ledger.notePassword]

/-- The line of a new token is that of the presented one, or begins with a
login. -/
theorem line_of_vouched
    (sound : ledger.Sound db.tokens)
    {grant : Grant}
    (vouched : ledger.Vouched db.tokens index (.createToken grant)) :
    ledger.Traced db.tokens (ledger.line index grant) grant.user.id ∧
      ∀ revocation ∈ ledger.revocations,
        ¬ (ledger.line index grant).EndedBy revocation := by
  cases origin : grant.origin with
  | login ip =>
      have signsIn : (Phase.createToken grant).signingIn = some grant.user := by
        simp [Phase.signingIn, Phase.grant, Origin.isRefresh, origin]
      simp only [Ledger.line, origin]
      refine ⟨⟨fun ancestor absent => by contradiction, ?_⟩, ?_⟩
      · rintro login ⟨⟩
        rfl
      · rintro revocation isNoted (⟨ancestor, absent, _⟩ |
          ⟨login, ⟨⟩, isUser, older⟩)
        · contradiction
        · have newer := vouched.logins grant.user signsIn revocation isNoted
            isUser
          omega
  | refresh stored =>
      have isPresented : (Phase.createToken grant).presented = some stored := by
        simp [Phase.presented, Phase.grant, origin]
      obtain ⟨token, present, isId, isUser⟩ :=
        vouched.stored stored isPresented
      have sameUser : grant.user.id = token.userId :=
        (vouched.users grant rfl stored origin).trans isUser.symm
      have traced := sound.traced token present
      simp only [Ledger.line, origin]
      rw [sameUser, ← isId]
      refine ⟨⟨?_, traced.login⟩, ?_⟩
      · intro ancestor isAncestor
        rcases List.mem_cons.mp isAncestor with rfl | earlier
        · exact ⟨token, present, rfl, rfl⟩
        · exact traced.ancestors ancestor earlier
      · intro revocation isNoted endedBy
        apply vouched.refreshes stored isPresented revocation isNoted
        rw [← isId]
        rcases endedBy with ⟨ancestor, isAncestor, isEnded⟩ | byLogin
        · rcases List.mem_cons.mp isAncestor with rfl | earlier
          · exact Or.inl isEnded
          · exact Or.inr (Or.inl ⟨ancestor, earlier, isEnded⟩)
        · exact Or.inr (Or.inr byLogin)

theorem failed_written (update : UserUpdate) (user : User) :
    (update.written user).failed = false := by
  unfold UserUpdate.written UserUpdate.revoked
  split
  · rfl
  · split
    · split <;> rfl
    · rfl

/-- A new password is noted, before the sessions end. -/
theorem advances_wrote
    (update : UserUpdate)
    (accounts : Accounts)
    (user : User) :
    Advances env index fresh ledger db { db with accounts := accounts }
      (.writeUser update) (update.written user) := by
  have unrevoking : ledger.revoking env index db.tokens (.writeUser update) =
      none :=
    rfl
  unfold Advances
  rw [note_of_unrevoking db.tokens unrevoking (failed_written update user)]
  simp only [Ledger.noteStatement]
  cases isNew : update.dto.newPassword.isSome with
  | true =>
      have endsSessions : update.endsSessions = true := by
        simp [UserUpdate.endsSessions, isNew]
      simp only [UserUpdate.written, endsSessions, if_true]
      refine ⟨.replaced update.existing.id, ?_⟩
      constructor
      · exact fun stored absent => by contradiction
      · exact fun stored absent => by contradiction
      · exact fun user absent => by contradiction
      · intro other isUpdate
        simp only [Phase.replacing, isNew, if_true, Option.mem_def,
          Option.some.injEq] at isUpdate
        subst isUpdate
        simp [Ledger.notePassword]
      · exact fun grant absent => by contradiction
  | false =>
      simp only [Bool.false_eq_true, if_false]
      refine ⟨.kept, ?_⟩
      unfold UserUpdate.written
      split
      · exact vouched_of_idle rfl rfl (by simp [Phase.replacing, isNew])
      · exact vouched_of_tokenless (update.tokenless_revoked user)

/-- The sessions end after the password was written. -/
theorem advances_endedSessions
    (sound : ledger.Sound db.tokens)
    (update : UserUpdate)
    (written : User)
    (vouched : ledger.Vouched db.tokens index (.revokeSessions update written))
    (tokenless : next.tokenless = true) :
    Advances env index fresh ledger db
      (db.revokeMany (Tokens.ofUser update.existing.id) now).1
      (.revokeSessions update written) next := by
  have idle : ∀ noted : Ledger, noted.Vouched
      (db.tokens.revoke (Tokens.ofUser update.existing.id) now) index next :=
    fun noted => vouched_of_tokenless tokenless
  cases failed : next.failed with
  | true =>
      unfold Advances
      rw [note_of_failed env db.tokens failed]
      exact ⟨.dropped _ now, idle ledger⟩
  | false =>
      cases isNew : update.dto.newPassword.isSome with
      | true =>
          have isReplacing : (Phase.revokeSessions update written).replacing =
              some update := by
            simp [Phase.replacing, isNew]
          have revoking : ledger.revoking env index db.tokens
              (.revokeSessions update written) =
                some (endsSessions db.tokens update.existing.id
                  (ledger.written index)) := by
            simp [Ledger.revoking, isNew]
          unfold Advances
          rw [note_of_revoking db.tokens revoking failed]
          exact ⟨bookkeeping_endsSessions sound (Or.inl rfl) update.existing.id
            (vouched.updates update isReplacing), idle _⟩
      | false =>
          have unrevoking : ledger.revoking env index db.tokens
              (.revokeSessions update written) = none := by
            simp [Ledger.revoking, isNew]
          unfold Advances
          rw [note_of_unnoted db.tokens unrevoking rfl]
          exact ⟨.dropped _ now, idle ledger⟩

/-- A token is logged out, whose descendants are revoked. -/
theorem advances_loggedOut
    (rawToken : String)
    (descendants : ∀ token ∈ db.tokens.rows,
      ledger.Ends (logsOut db.tokens (env.sha256 rawToken)) token.id →
        token.id ∈ (logsOut db.tokens (env.sha256 rawToken)).ended ∨
          token.revokedAt ≠ none) :
    Advances env index fresh ledger db
      (db.revokeMany (Tokens.ofHash (env.sha256 rawToken)) now).1
      (.revokePresented rawToken) (.done (.ok .ok)) := by
  have ofEnded : ∀ id ∈ (logsOut db.tokens (env.sha256 rawToken)).ended,
      ∃ token ∈ db.tokens.rows, token.id = id ∧
        token.tokenHash = env.sha256 rawToken := by
    intro id isEnded
    obtain ⟨token, isToken, isId⟩ := List.mem_map.mp isEnded
    obtain ⟨present, isHash⟩ := List.mem_filter.mp isToken
    exact ⟨token, present, isId, by simpa using isHash⟩
  unfold Advances
  rw [note_of_revoking db.tokens rfl rfl]
  refine ⟨.ended _ _ now (Or.inl rfl) ?_ ?_ ?_, vouched_of_idle rfl rfl rfl⟩
  · intro id isEnded
    obtain ⟨token, present, isId, _⟩ := ofEnded id isEnded
    exact ⟨token, present, isId⟩
  · intro userId absent
    contradiction
  · intro token present ends
    rcases descendants token present ends with isEnded | revoked
    · obtain ⟨other, otherPresent, sameId, isHash⟩ := ofEnded token.id isEnded
      rw [Tokens.eq_of_id otherPresent present sameId] at isHash
      cases revoked : token.revokedAt with
      | none =>
          apply Or.inl
          simp [Tokens.ofHash, isHash, revoked]
      | some time => exact Or.inr (Option.some_ne_none time)
    · exact Or.inr revoked

/-- A login has read its user, whose latest password it will verify. -/
theorem advances_looked
    (sound : ledger.Sound db.tokens)
    (dto : LoginDto)
    (ip : Option String)
    (tenant : Option Tenant)
    (user : Option User) :
    Advances env index fresh ledger db db (.findUser dto ip tenant)
      (.comparePassword dto ip tenant user) := by
  cases user with
  | none =>
      exact advances_of_unnoted rfl (note_of_unnoted db.tokens rfl rfl)
        (vouched_of_idle rfl rfl rfl)
  | some user =>
      have unrevoking : ledger.revoking env index db.tokens
          (.findUser dto ip tenant) = none :=
        rfl
      unfold Advances
      rw [note_of_unrevoking db.tokens unrevoking rfl]
      refine ⟨.read user.id, ?_⟩
      constructor
      · exact fun stored absent => by contradiction
      · exact fun stored absent => by contradiction
      · rintro reader ⟨⟩ revocation isNoted isUser
        simp only [Ledger.noteStatement, Ledger.noteRead,
          Function.update_self]
        exact sound.dated revocation isNoted user.id isUser
      · exact fun update absent => by contradiction
      · exact fun grant absent => by contradiction

/-- The checks for a grant are passed up to here. -/
theorem grant_of_under
    {grant : Grant}
    (under : Phase.Under grant phase) :
    phase.grant = some grant ∧ phase.replacing = none ∧
      phase.signingIn =
        if grant.origin.isRefresh then none else some grant.user := by
  cases under <;> exact ⟨rfl, rfl, rfl⟩

/-- A presented token is unrevoked, so that no revocation is about it; a login
goes on with the user it has read. -/
theorem vouched_of_gives
    (sound : ledger.Sound db.tokens)
    (vouched : ledger.Vouched db.tokens index phase)
    {grant : Grant}
    (gives : Phase.Gives env db phase grant)
    (under : Phase.Under grant next) :
    ledger.Vouched db.tokens index next := by
  obtain ⟨isGrant, noUpdate, signsIn⟩ := grant_of_under under
  cases gives with
  | login dto ip tenant user =>
      have noToken : next.presented = none := by
        simp [Phase.presented, isGrant]
      constructor
      · simp [noToken]
      · simp [noToken]
      · rw [signsIn]
        exact vouched.logins
      · simp [noUpdate]
      · rw [isGrant]
        rintro other ⟨⟩ stored isRefresh
        contradiction
  | @refresh rawToken stored user found account unrevoked =>
      have isPresented : next.presented = some stored := by
        simp [Phase.presented, isGrant]
      have present := db.tokens.byHash.mem_of_find? found
      constructor
      · rw [isPresented]
        rintro other ⟨⟩
        exact ⟨stored, present, rfl, rfl⟩
      · rw [isPresented]
        rintro other ⟨⟩ revocation isNoted ends
        exact sound.final revocation isNoted stored present ends unrevoked
      · rw [signsIn]
        exact fun reader absent => by contradiction
      · simp [noUpdate]
      · rw [isGrant]
        rintro other ⟨⟩ presented isRefresh
        obtain rfl := Origin.refresh.inj isRefresh
        exact db.accounts.users.key_of_find? account
  | app grant tenant clientId =>
      exact vouched.sameGrant (.refl db.tokens) isGrant signsIn noUpdate
  | enablement grant tenant app =>
      exact vouched.sameGrant (.refl db.tokens) isGrant signsIn noUpdate

theorem idle_issued (grant : Grant) (session : Session) :
    (grant.issued session).grant = none ∧
      (grant.issued session).signingIn = none ∧
      (grant.issued session).replacing = none ∧
      (grant.issued session).failed = false := by
  unfold Grant.issued
  split <;> exact ⟨rfl, rfl, rfl, rfl⟩

/-- A token is created with its line. -/
theorem advances_created
    (sound : ledger.Sound db.tokens)
    {grant : Grant}
    (vouched : ledger.Vouched db.tokens index (.createToken grant))
    {created : Tokens}
    (creation : db.tokens.create (grant.token env now fresh) = some created)
    (session : Session) :
    Advances env index fresh ledger db { db with tokens := created }
      (.createToken grant) (grant.issued session) := by
  obtain ⟨noGrant, noLogin, noUpdate, succeeded⟩ := idle_issued grant session
  obtain ⟨traced, unended⟩ := line_of_vouched sound vouched
  have unrevoking : ledger.revoking env index db.tokens (.createToken grant) =
      none :=
    rfl
  unfold Advances
  rw [note_of_unrevoking db.tokens unrevoking succeeded]
  exact ⟨.issued (grant.token env now fresh) _
    (Tokens.creates_of_create creation) traced unended,
    vouched_of_idle noGrant noLogin noUpdate⟩

/-- Whatever a call does is noted, and the call is vouched for where it goes
on. -/
theorem advances_of_moves
    (moves : Phase.Moves env now fresh db phase after next)
    (notReset : ∀ user passwordHash,
      phase ≠ .resetTransaction user passwordHash)
    (sound : ledger.Sound db.tokens)
    (vouched : ledger.Vouched db.tokens index phase)
    (descendants : ∀ rawToken, phase = .revokePresented rawToken →
      ∀ token ∈ db.tokens.rows,
        ledger.Ends (logsOut db.tokens (env.sha256 rawToken)) token.id →
          token.id ∈ (logsOut db.tokens (env.sha256 rawToken)).ended ∨
            token.revokedAt ≠ none) :
    Advances env index fresh ledger db after phase next := by
  cases moves with
  | ended outcome =>
      exact advances_of_unnoted rfl (note_of_unnoted db.tokens rfl rfl) vouched
  | failed _ error => exact advances_of_failed env fresh ledger db phase error
  | quiet plain tokenless sameTokens =>
      unfold Advances
      rw [sameTokens]
      rcases note_of_plain db.tokens plain notReset tokenless with
        unnoted | ⟨userId, noted⟩
      · rw [unnoted]
        exact ⟨.kept, vouched_of_tokenless tokenless⟩
      · rw [noted]
        exact ⟨.replaced userId, vouched_of_tokenless tokenless⟩
  | looked dto ip tenant => exact advances_looked sound dto ip tenant _
  | granted gives under =>
      refine advances_of_unnoted rfl ?_
        (vouched_of_gives sound vouched gives under)
      cases gives <;> exact note_of_unnoted db.tokens rfl rfl
  | rotated grant stored revoked =>
      obtain ⟨_, rfl⟩ := Tokens.of_revokeById revoked
      have unnoted : ledger.note env index fresh db.tokens
          (.rotate grant stored) (.createToken grant) = ledger :=
        note_of_unnoted db.tokens rfl rfl
      unfold Advances
      rw [unnoted]
      exact ⟨.dropped _ now,
        vouched.sameGrant (Tokens.extends_revoke _ now) rfl rfl rfl⟩
  | created grant creation => exact advances_created sound vouched creation _
  | recordedLogin grant ip session event =>
      exact advances_of_unnoted rfl (note_of_unnoted db.tokens rfl rfl)
        (vouched_of_idle rfl rfl rfl)
  | detected tenantId =>
      exact advances_of_unnoted rfl (note_of_unnoted db.tokens rfl rfl)
        (vouched_of_idle rfl rfl rfl)
  | revokedReused stored tenantId =>
      unfold Advances
      rw [note_of_revoking db.tokens rfl rfl]
      exact ⟨bookkeeping_endsSessions sound (Or.inl rfl) stored.userId
        (Nat.zero_le _), vouched_of_idle rfl rfl rfl⟩
  | recordedReuse stored tenantId count event =>
      exact advances_of_unnoted rfl (note_of_failed env db.tokens rfl)
        (vouched_of_idle rfl rfl rfl)
  | loggedOut rawToken =>
      exact advances_loggedOut rawToken (descendants rawToken rfl)
  | reset user passwordHash => exact absurd rfl (notReset user passwordHash)
  | wrote update user => exact advances_wrote update _ user
  | endedSessions update written tokenless =>
      exact advances_endedSessions sound update written vouched tokenless

/-- A reset fails, or replaces the password and ends the sessions. -/
theorem advances_step
    (sound : ledger.Sound db.tokens)
    (vouched : ledger.Vouched db.tokens index phase)
    (descendants : ∀ rawToken, phase = .revokePresented rawToken →
      ∀ token ∈ db.tokens.rows,
        ledger.Ends (logsOut db.tokens (env.sha256 rawToken)) token.id →
          token.id ∈ (logsOut db.tokens (env.sha256 rawToken)).ended ∨
            token.revokedAt ≠ none) :
    Advances env index fresh ledger db (phase.step env now fresh db).1 phase
      (phase.step env now fresh db).2 := by
  by_cases resets : ∃ user passwordHash,
      phase = .resetTransaction user passwordHash
  · obtain ⟨user, passwordHash, rfl⟩ := resets
    simp only [Phase.step]
    split
    · exact advances_of_failed env fresh ledger db _ .internal
    · exact advances_reset sound user passwordHash _
  · exact advances_of_moves (moves_step env now fresh db phase)
      (fun user passwordHash isReset => resets ⟨user, passwordHash, isReset⟩)
      sound vouched descendants

end Mover

end Ledger

/-! ## Runs -/

section Runs

variable {env : AuthEnv} {index : Nat} {fresh : Fresh} {tokens : Tokens}
  {ledger : Ledger} {phase next : Phase} {revocation : Revocation}

/-- A revocation was noted before, or the statement has made it. -/
theorem Ledger.mem_revocations_note
    (isNoted : revocation ∈
      (ledger.note env index fresh tokens phase next).revocations) :
    revocation ∈ ledger.revocations ∨
      ledger.revoking env index tokens phase = some revocation := by
  unfold Ledger.note at isNoted
  split at isNoted
  · exact Or.inl isNoted
  · rcases List.mem_append.mp isNoted with isMade | before
    · exact Or.inr (Option.mem_toList.mp isMade)
    · exact Or.inl before

theorem Ledger.vouched_begins
    (env : AuthEnv)
    (request : Request) :
    ledger.Vouched tokens index (request.begins env) := by
  cases request with
  | login dto ip =>
      simp only [Request.begins]
      split <;> exact Ledger.vouched_of_idle rfl rfl rfl
  | refresh rawToken => exact Ledger.vouched_of_idle rfl rfl rfl
  | logout rawToken => exact Ledger.vouched_of_idle rfl rfl rfl
  | resetPassword token password =>
      simp only [Request.begins]
      split <;> exact Ledger.vouched_of_idle rfl rfl rfl
  | updateUser id dto => exact Ledger.vouched_of_idle rfl rfl rfl

/-- Before the first statement no revocation is to be kept. -/
theorem Ledger.sound_start (tokens : Tokens) : Ledger.start.Sound tokens := by
  refine ⟨?_, ?_, ?_, ?_⟩
  · intro token _
    exact ⟨fun ancestor absent => by contradiction,
      fun login absent => by contradiction⟩
  · intro revocation absent
    contradiction
  · intro revocation absent
    contradiction
  · intro revocation absent
    contradiction

/-- From any database and in every interleaving: while every revocation is made
unopposed, no token that a revocation is about is unrevoked, and no call is to
issue a session for one. -/
theorem revocation_final
    (env : AuthEnv)
    {db : AuthDb}
    {events : List (PoolEvent (Nat × Request) (Nat × Fresh))}
    {final : Pool AuthDb Call × Ledger}
    (run : Run ((sessions env).watch (Ledger.observe env))
      (RevokesUnopposed env) (⟨db, []⟩, .start) events final)
    {revocation : Revocation}
    (isMade : revocation ∈ final.2.revocations)
    {id : String}
    (ends : final.2.Ends revocation id) :
    (∀ token ∈ final.1.data.tokens.rows, token.id = id →
        token.revokedAt ≠ none) ∧
      ∀ call ∈ final.1.calls, ∀ stored ∈ call.phase.presented,
        stored.id ≠ id := by
  have holds : Program.Holds
      (fun (db : AuthDb) (ledger : Ledger) => ledger.Sound db.tokens)
      (fun db ledger index (call : Call) =>
        ledger.Vouched db.tokens index call.phase) final := by
    apply Program.always _ _ _ run
    · refine ⟨Ledger.sound_start db.tokens, ?_⟩
      intro index call absent
      contradiction
    · intro pool ledger request _ _
      exact Ledger.vouched_begins env request.2
    · intro pool ledger index input call holds unopposed present
      have advances : Ledger.Advances env index input.2 ledger pool.data
          (call.phase.step env input.1 input.2 pool.data).1 call.phase
          (call.phase.step env input.1 input.2 pool.data).2 := by
        apply Ledger.advances_step holds.ofData (holds.ofCall index call present)
        intro rawToken isLogout
        apply (unopposed call present _ _).descendants rfl
        rw [isLogout]
        rfl
      refine ⟨holds.ofData.kept advances.1, advances.2, ?_⟩
      intro other bystander apart found
      apply (holds.ofCall other bystander found).undisturbed advances.1 apart
      intro revocation isNoted
      rcases Ledger.mem_revocations_note isNoted with before | isRevoking
      · exact Or.inl before
      · have clear := unopposed call present revocation isRevoking
        refine Or.inr ⟨clear.refreshes bystander (List.mem_of_getElem? found),
          ?_⟩
        exact clear.logins (bystander, other)
          (List.mk_mem_zipIdx_iff_getElem?.mpr found)
    · intro data ledger index call _ _
      exact Ledger.vouched_of_idle rfl rfl rfl
  constructor
  · rintro token present rfl
    exact holds.ofData.final revocation isMade token present ends
  · intro call isCall stored isPresented same
    obtain ⟨index, found⟩ := List.mem_iff_getElem?.mp isCall
    apply (holds.ofCall index call found).refreshes stored isPresented
      revocation isMade
    rw [same]
    exact ends

end Runs

/-! ## A refresh in the gap -/

/-- A refresh, and then a reset that ends the sessions. -/
theorem revocation_final_inTurn :
    ∃ final, Run ((sessions plainEnv).watch (Ledger.observe plainEnv))
        (RevokesUnopposed plainEnv) (⟨demoSessions oneToken, []⟩, .start)
        [.start (0, .refresh "raw0"), statementAt 1 0 "k1" "raw1",
          statementAt 1 0 "k1" "raw1", statementAt 1 0 "k1" "raw1",
          .start (0, .resetPassword "u1" "new"), statementAt 2 1 "" "",
          statementAt 2 1 "" "", statementAt 2 1 "" "",
          statementAt 2 1 "" ""] final ∧
      ∃ revocation ∈ final.2.revocations, final.2.Ends revocation "k1" ∧
        (∀ token ∈ final.1.data.tokens.rows, token.id = "k1" →
          token.revokedAt ≠ none) ∧
        ∀ call ∈ final.1.calls, ∀ stored ∈ call.phase.presented,
          stored.id ≠ "k1" := by
  obtain ⟨final, run, made⟩ := Run.exists_of_execute
    ((sessions plainEnv).watch (Ledger.observe plainEnv))
    (fun state event => decide (RevokesUnopposed plainEnv state event))
    (fun _ _ passed => of_decide_eq_true passed)
    (⟨demoSessions oneToken, []⟩, .start)
    [.start (0, .refresh "raw0"), statementAt 1 0 "k1" "raw1",
      statementAt 1 0 "k1" "raw1", statementAt 1 0 "k1" "raw1",
      .start (0, .resetPassword "u1" "new"), statementAt 2 1 "" "",
      statementAt 2 1 "" "", statementAt 2 1 "" "", statementAt 2 1 "" ""]
    (fun state => state.2.revocations.any fun revocation =>
      state.2.Ends revocation "k1")
    (by decide +kernel)
  simp only [List.any_eq_true, decide_eq_true_eq] at made
  obtain ⟨revocation, isMade, ends⟩ := made
  exact ⟨final, run, revocation, isMade, ends,
    revocation_final plainEnv run isMade ends⟩

/-- A reset runs while a refresh has read its token and not rotated it yet: the
successor is created after the reset has ended the sessions, and lives on. -/
theorem refreshInGap_survivesReset :
    ∃ final, Run ((sessions plainEnv).watch (Ledger.observe plainEnv))
        (fun _ _ => True) (⟨demoSessions oneToken, []⟩, .start)
        [.start (0, .refresh "raw0"), statementAt 1 0 "" "",
          .start (1, .resetPassword "u1" "new"), statementAt 2 1 "" "",
          statementAt 2 1 "" "", statementAt 2 1 "" "", statementAt 2 1 "" "",
          statementAt 3 0 "" "", statementAt 3 0 "k1" "raw1"] final ∧
      ∃ revocation ∈ final.2.revocations, revocation.userId = some "u1" ∧
        ∃ token ∈ final.1.data.tokens.rows, final.2.Ends revocation token.id ∧
          token.revokedAt = none := by
  obtain ⟨final, run, survives⟩ := Run.exists_of_execute
    ((sessions plainEnv).watch (Ledger.observe plainEnv))
    (fun _ _ => true) (fun _ _ _ => trivial)
    (⟨demoSessions oneToken, []⟩, .start)
    [.start (0, .refresh "raw0"), statementAt 1 0 "" "",
      .start (1, .resetPassword "u1" "new"), statementAt 2 1 "" "",
      statementAt 2 1 "" "", statementAt 2 1 "" "", statementAt 2 1 "" "",
      statementAt 3 0 "" "", statementAt 3 0 "k1" "raw1"]
    (fun state => state.2.revocations.any fun revocation =>
      revocation.userId = some "u1" &&
        state.1.data.tokens.rows.any fun token =>
          state.2.Ends revocation token.id && token.revokedAt = none)
    (by decide +kernel)
  simp only [List.any_eq_true, Bool.and_eq_true, decide_eq_true_eq] at survives
  obtain ⟨revocation, isMade, isUser, token, present, ends, unrevoked⟩ :=
    survives
  exact ⟨final, run, revocation, isMade, isUser, token, present, ends,
    unrevoked⟩

end Auth
end EvoPlatform
