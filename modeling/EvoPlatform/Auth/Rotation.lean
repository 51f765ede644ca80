import EvoPlatform.Auth.Sessions

/-!
# A refresh token rotates at most once

The tokens of one login form a chain.  A record beside the calls numbers the
chains and notes which call has rotated which token; a chain is then either in
the hands of one unrevoked token, or of one call that has rotated the last
token and is to issue the next.
-/

namespace EvoPlatform
namespace Auth

/-- What is noted about the chains of tokens. -/
structure Chains where
  /-- The chain of a token, by its id. -/
  chain : String → Nat
  /-- The chain that the next login begins. -/
  next : Nat
  /-- The call that is to issue the next token of a chain. -/
  holder : Nat → Option Nat
  /-- The call that has rotated a token. -/
  rotatedBy : String → Option Nat

namespace Chains

/-- Given chains, and nothing rotated. -/
def start (chain : String → Nat) (next : Nat) : Chains :=
  ⟨chain, next, fun _ => none, fun _ => none⟩

variable (chains : Chains)

/-- A call has revoked the token that it was presented. -/
def rotate (index : Nat) (stored : RefreshToken) : Chains :=
  { chains with
    holder := Function.update chains.holder (chains.chain stored.id)
      (some index)
    rotatedBy := Function.update chains.rotatedBy stored.id (some index) }

/-- A token was created. -/
def issue (id : String) : Origin → Chains
  | .login _ =>
      { chains with
        chain := Function.update chains.chain id chains.next
        next := chains.next + 1 }
  | .refresh stored =>
      { chains with
        chain := Function.update chains.chain id (chains.chain stored.id)
        holder := Function.update chains.holder (chains.chain stored.id)
          none }

/-- What is noted of a statement, from where it leads. -/
def note (index : Nat) (fresh : Fresh) : Phase → Phase → Chains
  | .rotate _ stored, .createToken _ => chains.rotate index stored
  | .createToken grant, .recordLogin .. => chains.issue fresh.id grant.origin
  | .createToken grant, .done (.ok _) => chains.issue fresh.id grant.origin
  | _, _ => chains

end Chains

def observeChains (env : AuthEnv) (chains : Chains) (index : Nat)
    (input : Nat × Fresh) (db : AuthDb) (call : Call) : Chains :=
  chains.note index input.2 call.phase
    (call.phase.step env input.1 input.2 db).2

/-- The token that the next statement of a refresh revokes. -/
def Phase.rotating : Phase → Option RefreshToken
  | .rotate _ stored => some stored
  | _ => none

/-- Every revoking statement of a refresh finds the token unrevoked, as it was
when the call read it. -/
def FindsUnrevoked (state : Pool AuthDb Call × Chains) :
    PoolEvent (Nat × Request) (Nat × Fresh) → Prop
  | .advance index _ => ∀ call ∈ state.1.calls[index]?,
      ∀ stored ∈ call.phase.rotating, ∀ token ∈ state.1.data.tokens.rows,
        token.id = stored.id → token.revokedAt = none
  | _ => True

instance (state : Pool AuthDb Call × Chains) :
    (event : PoolEvent (Nat × Request) (Nat × Fresh)) →
      Decidable (FindsUnrevoked state event)
  | .advance index _ =>
      inferInstanceAs (Decidable (∀ call ∈ state.1.calls[index]?,
        ∀ stored ∈ call.phase.rotating, ∀ token ∈ state.1.data.tokens.rows,
          token.id = stored.id → token.revokedAt = none))
  | .start _ => isTrue trivial
  | .abandon _ => isTrue trivial

/-! ## The chains in the table -/

/-- What holds of the table and the chains. -/
structure Sound (tokens : Tokens) (chains : Chains) : Prop where
  /-- A rotated token is revoked. -/
  rotated : ∀ id index, chains.rotatedBy id = some index →
    ∃ token ∈ tokens.rows, token.id = id ∧ token.revokedAt ≠ none
  /-- At most one token of a chain is not revoked. -/
  single : ∀ left ∈ tokens.rows, ∀ right ∈ tokens.rows,
    left.revokedAt = none → right.revokedAt = none →
      chains.chain left.id = chains.chain right.id → left = right
  numbered : ∀ token ∈ tokens.rows, chains.chain token.id < chains.next
  /-- The tokens of a chain whose next token is still to be issued are all
  revoked. -/
  held : ∀ chain index, chains.holder chain = some index →
    chain < chains.next ∧ ∀ token ∈ tokens.rows,
      chains.chain token.id = chain → token.revokedAt ≠ none

section Sound

variable {tokens : Tokens} {chains : Chains}

/-- Revoking tokens keeps the chains sound. -/
theorem Sound.revoke
    (sound : Sound tokens chains)
    (doomed : RefreshToken → Bool)
    (now : Nat) :
    Sound (tokens.revoke doomed now) chains where
  rotated id index isRotated := by
    obtain ⟨token, present, rfl, revoked⟩ := sound.rotated id index isRotated
    obtain ⟨kept, keptPresent, keptId, _, keptRevoked⟩ :=
      Tokens.revoked_of_revoke doomed now present (Or.inl revoked)
    exact ⟨kept, keptPresent, keptId, keptRevoked⟩
  single left leftPresent right rightPresent leftUnrevoked rightUnrevoked := by
    obtain ⟨leftBefore, _⟩ := Tokens.mem_of_mem_revoke leftPresent leftUnrevoked
    obtain ⟨rightBefore, _⟩ :=
      Tokens.mem_of_mem_revoke rightPresent rightUnrevoked
    exact sound.single left leftBefore right rightBefore
      leftUnrevoked rightUnrevoked
  numbered token present := by
    obtain ⟨old, oldPresent, sameId, _⟩ :=
      Tokens.revokedAt_of_mem_revoke present
    rw [← sameId]
    exact sound.numbered old oldPresent
  held chain index isHeld := by
    obtain ⟨bound, revoked⟩ := sound.held chain index isHeld
    refine ⟨bound, ?_⟩
    intro token present ofChain unrevoked
    obtain ⟨before, _⟩ := Tokens.mem_of_mem_revoke present unrevoked
    exact revoked token before ofChain unrevoked

/-- A call that rotates an unrevoked token takes over its chain. -/
theorem Sound.rotate
    (sound : Sound tokens chains)
    {stored : RefreshToken}
    (index now : Nat)
    (present : ∃ row ∈ tokens.rows, row.id = stored.id)
    (unrevoked : ∀ row ∈ tokens.rows, row.id = stored.id →
      row.revokedAt = none) :
    Sound (tokens.revoke (fun token => token.id = stored.id) now)
      (chains.rotate index stored) := by
  obtain ⟨row, rowPresent, isStored⟩ := present
  have rowUnrevoked := unrevoked row rowPresent isStored
  -- after the statement no token of the chain is unrevoked
  have emptied : ∀ token ∈
      (tokens.revoke (fun token => token.id = stored.id) now).rows,
      chains.chain token.id = chains.chain stored.id →
        token.revokedAt ≠ none := by
    intro token tokenPresent ofChain tokenUnrevoked
    obtain ⟨before, spared⟩ :=
      Tokens.mem_of_mem_revoke tokenPresent tokenUnrevoked
    have same := sound.single token before row rowPresent tokenUnrevoked
      rowUnrevoked (by rw [ofChain, isStored])
    simp [same, isStored] at spared
  have revoked := sound.revoke (fun token => token.id = stored.id) now
  constructor
  · intro id caller isRotated
    by_cases same : id = stored.id
    · obtain ⟨kept, keptPresent, keptId, _, keptRevoked⟩ :=
        Tokens.revoked_of_revoke (fun token => token.id = stored.id) now
          rowPresent (Or.inr (by simpa using isStored))
      exact ⟨kept, keptPresent, by rw [keptId, isStored, same], keptRevoked⟩
    · simp only [Chains.rotate, Function.update_of_ne same] at isRotated
      exact revoked.rotated id caller isRotated
  · exact revoked.single
  · exact revoked.numbered
  · intro chain holder isHeld
    by_cases same : chain = chains.chain stored.id
    · subst same
      refine ⟨?_, emptied⟩
      rw [← isStored]
      exact sound.numbered row rowPresent
    · simp only [Chains.rotate, Function.update_of_ne same] at isHeld
      exact revoked.held chain holder isHeld

/-- A new token keeps the chains sound when no unrevoked token has its chain,
and no call holds it. -/
theorem Sound.create
    (sound : Sound tokens chains)
    {created : Tokens}
    {token : RefreshToken}
    {after : Chains}
    (creates : Tokens.Creates tokens created token)
    (older : ∀ old ∈ tokens.rows, after.chain old.id = chains.chain old.id)
    (fits : after.chain token.id < after.next)
    (grown : chains.next ≤ after.next)
    (free : ∀ old ∈ tokens.rows, old.revokedAt = none →
      chains.chain old.id ≠ after.chain token.id)
    (sameRotated : after.rotatedBy = chains.rotatedBy)
    (heldBefore : ∀ chain index, after.holder chain = some index →
      chains.holder chain = some index ∧ chain ≠ after.chain token.id) :
    Sound created after where
  rotated id index isRotated := by
    rw [sameRotated] at isRotated
    obtain ⟨row, present, sameId, revoked⟩ := sound.rotated id index isRotated
    exact ⟨row, creates.mem_iff.mpr (Or.inl present), sameId, revoked⟩
  single left leftPresent right rightPresent leftUnrevoked rightUnrevoked
      sameChain := by
    rcases creates.mem_iff.mp leftPresent with leftOld | rfl
    · rcases creates.mem_iff.mp rightPresent with rightOld | rfl
      · rw [older left leftOld, older right rightOld] at sameChain
        exact sound.single left leftOld right rightOld leftUnrevoked
          rightUnrevoked sameChain
      · rw [older left leftOld] at sameChain
        exact absurd sameChain (free left leftOld leftUnrevoked)
    · rcases creates.mem_iff.mp rightPresent with rightOld | rfl
      · rw [older right rightOld] at sameChain
        exact absurd sameChain.symm (free right rightOld rightUnrevoked)
      · rfl
  numbered other present := by
    rcases creates.mem_iff.mp present with old | rfl
    · rw [older other old]
      exact Nat.lt_of_lt_of_le (sound.numbered other old) grown
    · exact fits
  held chain index isHeld := by
    obtain ⟨before, apart⟩ := heldBefore chain index isHeld
    obtain ⟨bound, revoked⟩ := sound.held chain index before
    refine ⟨Nat.lt_of_lt_of_le bound grown, ?_⟩
    intro other present ofChain
    rcases creates.mem_iff.mp present with old | rfl
    · rw [older other old] at ofChain
      exact revoked other old ofChain
    · exact absurd ofChain.symm apart

/-- A login begins a chain of its own. -/
theorem Sound.login
    (sound : Sound tokens chains)
    {created : Tokens}
    {token : RefreshToken}
    (ip : Option String)
    (creates : Tokens.Creates tokens created token) :
    Sound created (chains.issue token.id (.login ip)) := by
  have newest : (chains.issue token.id (.login ip)).chain token.id =
      chains.next :=
    Function.update_self _ _ _
  apply sound.create creates
  · intro old present
    exact Function.update_of_ne (creates.newId old present) _ _
  · rw [newest]
    exact Nat.lt_succ_self chains.next
  · exact Nat.le_succ chains.next
  · intro old present _
    rw [newest]
    exact (sound.numbered old present).ne
  · rfl
  · intro chain index isHeld
    rw [newest]
    exact ⟨isHeld, (sound.held chain index isHeld).1.ne⟩

/-- The call that holds a chain goes on with it. -/
theorem Sound.successor
    (sound : Sound tokens chains)
    {created : Tokens}
    {token stored : RefreshToken}
    {index : Nat}
    (creates : Tokens.Creates tokens created token)
    (isHeld : chains.holder (chains.chain stored.id) = some index) :
    Sound created (chains.issue token.id (.refresh stored)) := by
  obtain ⟨bound, revoked⟩ := sound.held _ _ isHeld
  have newest : (chains.issue token.id (.refresh stored)).chain token.id =
      chains.chain stored.id :=
    Function.update_self _ _ _
  apply sound.create creates
  · intro old present
    exact Function.update_of_ne (creates.newId old present) _ _
  · rw [newest]
    exact bound
  · exact Nat.le_refl chains.next
  · intro old present unrevoked
    rw [newest]
    intro sameChain
    exact revoked old present sameChain unrevoked
  · rfl
  · intro chain other stillHeld
    rw [newest]
    by_cases same : chain = chains.chain stored.id
    · rw [same] at stillHeld
      simp [Chains.issue] at stillHeld
    · refine ⟨?_, same⟩
      simpa [Chains.issue, Function.update_of_ne same] using stillHeld

end Sound

/-! ## What a statement does to the chains -/

/-- What a statement of a call can do to the tokens and their chains. -/
inductive ChainEffect (tokens : Tokens) (chains : Chains) (index : Nat) :
    Tokens → Chains → Prop
  | kept : ChainEffect tokens chains index tokens chains
  | revoked (doomed : RefreshToken → Bool) (now : Nat) :
      ChainEffect tokens chains index (tokens.revoke doomed now) chains
  | rotated (stored : RefreshToken) (now : Nat) :
      (∃ row ∈ tokens.rows, row.id = stored.id) →
      (∀ row ∈ tokens.rows, row.id = stored.id → row.revokedAt = none) →
      ChainEffect tokens chains index
        (tokens.revoke (fun token => token.id = stored.id) now)
        (chains.rotate index stored)
  | login {created : Tokens} (token : RefreshToken) (ip : Option String) :
      Tokens.Creates tokens created token →
      ChainEffect tokens chains index created
        (chains.issue token.id (.login ip))
  | successor {created : Tokens} (token stored : RefreshToken) :
      Tokens.Creates tokens created token →
      chains.holder (chains.chain stored.id) = some index →
      ChainEffect tokens chains index created
        (chains.issue token.id (.refresh stored))

section ChainEffect

variable {tokens after : Tokens} {chains noted : Chains} {index : Nat}

theorem ChainEffect.sound
    (effect : ChainEffect tokens chains index after noted)
    (sound : Sound tokens chains) :
    Sound after noted := by
  cases effect with
  | kept => exact sound
  | revoked doomed now => exact sound.revoke doomed now
  | rotated stored now present unrevoked =>
      exact sound.rotate index now present unrevoked
  | login token ip creates => exact sound.login ip creates
  | successor token stored creates isHeld =>
      exact sound.successor creates isHeld

theorem ChainEffect.extends
    (effect : ChainEffect tokens chains index after noted) :
    tokens.Extends after := by
  cases effect with
  | kept => exact Tokens.Extends.refl tokens
  | revoked doomed now => exact Tokens.extends_revoke doomed now
  | rotated stored now => exact Tokens.extends_revoke _ now
  | login token ip creates => exact creates.extends
  | successor token stored creates => exact creates.extends

/-- No call takes a rotated token over from another one. -/
theorem ChainEffect.rotatedBy
    (effect : ChainEffect tokens chains index after noted)
    (sound : Sound tokens chains)
    {id : String}
    {other : Nat}
    (isRotated : chains.rotatedBy id = some other) :
    noted.rotatedBy id = some other := by
  cases effect with
  | kept => exact isRotated
  | revoked doomed now => exact isRotated
  | rotated stored now present unrevoked =>
      obtain ⟨row, rowPresent, isId, revoked⟩ :=
        sound.rotated id other isRotated
      have different : id ≠ stored.id := by
        intro same
        exact revoked (unrevoked row rowPresent (isId.trans same))
      simpa [Chains.rotate, Function.update_of_ne different] using isRotated
  | login token ip creates => exact isRotated
  | successor token stored creates => exact isRotated

/-- No call takes a chain over from another one. -/
theorem ChainEffect.holder
    (effect : ChainEffect tokens chains index after noted)
    (sound : Sound tokens chains)
    {row : RefreshToken}
    {other : Nat}
    (present : row ∈ tokens.rows)
    (apart : other ≠ index)
    (isHeld : chains.holder (chains.chain row.id) = some other) :
    noted.holder (noted.chain row.id) = some other := by
  cases effect with
  | kept => exact isHeld
  | revoked doomed now => exact isHeld
  | rotated stored now storedPresent unrevoked =>
      obtain ⟨_, revoked⟩ := sound.held _ other isHeld
      obtain ⟨read, readPresent, isStored⟩ := storedPresent
      have different : chains.chain row.id ≠ chains.chain stored.id := by
        intro same
        refine revoked read readPresent ?_ (unrevoked read readPresent isStored)
        rw [isStored, same]
      simpa [Chains.rotate, Function.update_of_ne different] using isHeld
  | login token ip creates =>
      have older := creates.newId row present
      simpa [Chains.issue, Function.update_of_ne older] using isHeld
  | successor token stored creates storedHeld =>
      have older := creates.newId row present
      have different : chains.chain row.id ≠ chains.chain stored.id := by
        intro same
        rw [same, storedHeld] at isHeld
        exact apart (Option.some.inj isHeld).symm
      simpa [Chains.issue, Function.update_of_ne older,
        Function.update_of_ne different] using isHeld

end ChainEffect

/-! ## The calls -/

/-- Where a refresh of a token may stand. -/
inductive Refreshing (env : AuthEnv) (tokens : Tokens) (chains : Chains)
    (index : Nat) (rawToken : String) : Phase → Prop
  | asked : Refreshing env tokens chains index rawToken (.findToken rawToken)
  | checked {grant : Grant} {stored : RefreshToken} {phase : Phase} :
      grant.origin = .refresh stored →
      Presented env tokens rawToken stored → Phase.Under grant phase →
      Refreshing env tokens chains index rawToken phase
  | rotated {grant : Grant} {stored : RefreshToken} :
      grant.origin = .refresh stored →
      Presented env tokens rawToken stored →
      chains.rotatedBy stored.id = some index →
      chains.holder (chains.chain stored.id) = some index →
      Refreshing env tokens chains index rawToken (.createToken grant)
  | answered {stored : RefreshToken} (session : Session) :
      Presented env tokens rawToken stored →
      chains.rotatedBy stored.id = some index →
      Refreshing env tokens chains index rawToken
        (.done (.ok (.session session)))
  | reused (stored : RefreshToken) (tenantId : Option String) :
      Refreshing env tokens chains index rawToken
        (.revokeReused stored tenantId)
  | recorded (stored : RefreshToken) (tenantId : Option String)
      (count : Nat) :
      Refreshing env tokens chains index rawToken
        (.recordReuse stored tenantId count)
  | refused (error : AuthError) :
      Refreshing env tokens chains index rawToken (.throws error)

/-- A refresh stands where it may, and no other call is on its way. -/
def Follows (env : AuthEnv) (db : AuthDb) (chains : Chains) (index : Nat)
    (call : Call) : Prop :=
  match call.request with
  | .refresh rawToken =>
      Refreshing env db.tokens chains index rawToken call.phase
  | _ => call.phase.ofRefresh = false

/-- A call has returned a session for a refresh token. -/
def Call.returnedFor (call : Call) (rawToken : String) : Bool :=
  match call.request, call.phase with
  | .refresh presented, .done (.ok (.session _)) => presented = rawToken
  | _, _ => false

section Calls

variable {env : AuthEnv} {tokens after : Tokens} {chains noted : Chains}
  {index other : Nat} {rawToken : String}

/-- A statement of one call leaves a refresh by another where it may stand. -/
theorem Refreshing.undisturbed
    {phase : Phase}
    (refreshing : Refreshing env tokens chains other rawToken phase)
    (effect : ChainEffect tokens chains index after noted)
    (sound : Sound tokens chains)
    (apart : other ≠ index) :
    Refreshing env after noted other rawToken phase := by
  cases refreshing with
  | asked => exact .asked
  | checked origin presented under =>
      exact .checked origin (presented.extends effect.extends) under
  | rotated origin presented isRotated isHeld =>
      refine .rotated origin (presented.extends effect.extends)
        (effect.rotatedBy sound isRotated) ?_
      obtain ⟨_, row, present, sameId, _⟩ := presented
      rw [← sameId] at isHeld ⊢
      exact effect.holder sound present apart isHeld
  | answered session presented isRotated =>
      exact .answered session (presented.extends effect.extends)
        (effect.rotatedBy sound isRotated)
  | reused stored tenantId => exact .reused stored tenantId
  | recorded stored tenantId count => exact .recorded stored tenantId count
  | refused error => exact .refused error

theorem note_throws
    (chains : Chains)
    (index : Nat)
    (fresh : Fresh)
    (phase : Phase)
    (error : AuthError) :
    chains.note index fresh phase (.throws error) = chains := by
  cases phase <;> rfl

theorem note_issued
    (chains : Chains)
    (index : Nat)
    (fresh : Fresh)
    (grant : Grant)
    (session : Session) :
    chains.note index fresh (.createToken grant) (grant.issued session) =
      chains.issue fresh.id grant.origin := by
  unfold Grant.issued
  split <;> rfl

theorem note_of_plain
    (chains : Chains)
    (index : Nat)
    (fresh : Fresh)
    {phase : Phase}
    (next : Phase)
    (plain : phase.plain = true) :
    chains.note index fresh phase next = chains := by
  cases phase <;> first | rfl | contradiction

end Calls

/-- A call that has returned a session for a token has rotated it. -/
theorem Follows.rotated
    {env : AuthEnv}
    {db : AuthDb}
    {chains : Chains}
    {index : Nat}
    {call : Call}
    {rawToken : String}
    (follows : Follows env db chains index call)
    (returned : call.returnedFor rawToken = true) :
    ∃ row ∈ db.tokens.rows, row.tokenHash = env.sha256 rawToken ∧
      chains.rotatedBy row.id = some index := by
  unfold Call.returnedFor at returned
  split at returned
  · rename_i isRefresh isDone
    simp only [Follows, isRefresh, isDone] at follows
    rw [decide_eq_true_eq] at returned
    subst returned
    cases follows with
    | checked origin presented under => cases under
    | answered session presented isRotated =>
        obtain ⟨isHash, row, present, sameId, sameHash⟩ := presented
        exact ⟨row, present, sameHash.trans isHash, sameId ▸ isRotated⟩
  · contradiction

section Mover

variable {env : AuthEnv} {now : Nat} {fresh : Fresh} {db after : AuthDb}
  {chains : Chains} {index : Nat} {rawToken : String} {phase next : Phase}

/-- What a call that is not a refresh does to the chains. -/
theorem chainEffect_of_notRefresh
    (moves : Phase.Moves env now fresh db phase after next)
    (notRefresh : phase.ofRefresh = false) :
    ChainEffect db.tokens chains index after.tokens
      (chains.note index fresh phase next) := by
  cases moves with
  | ended outcome => exact .kept
  | failed phase error =>
      rw [note_throws]
      exact .kept
  | quiet plain _ sameTokens =>
      rw [note_of_plain chains index fresh next plain, sameTokens]
      exact .kept
  | looked dto ip tenant => exact .kept
  | granted gives under =>
      cases gives with
      | login dto ip tenant user => exact .kept
      | refresh found account unrevoked => contradiction
      | app grant tenant clientId => exact .kept
      | enablement grant tenant app => exact .kept
  | rotated grant stored revoked => contradiction
  | created grant created =>
      rw [note_issued]
      cases origin : grant.origin with
      | login ip =>
          exact .login (grant.token env now fresh) ip
            (Tokens.creates_of_create created)
      | refresh stored =>
          simp [Phase.ofRefresh, Origin.isRefresh, origin] at notRefresh
  | recordedLogin grant ip session event => exact .kept
  | detected tenantId found revoked late => contradiction
  | revokedReused stored tenantId => contradiction
  | recordedReuse stored tenantId count event => contradiction
  | loggedOut rawToken => exact .revoked _ now
  | reset user passwordHash => exact .revoked _ now
  | wrote update written => exact .kept
  | endedSessions update written tokenless => exact .revoked _ now

/-- What a refresh does to the chains, and where it stands then. -/
theorem refreshing_moves
    (refreshing : Refreshing env db.tokens chains index rawToken phase)
    (moves : Phase.Moves env now fresh db phase after next)
    (unrevoked : ∀ stored ∈ phase.rotating, ∀ token ∈ db.tokens.rows,
      token.id = stored.id → token.revokedAt = none) :
    ChainEffect db.tokens chains index after.tokens
        (chains.note index fresh phase next) ∧
      Refreshing env after.tokens (chains.note index fresh phase next) index
        rawToken next := by
  have failing : ∀ error, ChainEffect db.tokens chains index db.tokens
        (chains.note index fresh phase (.throws error)) ∧
      Refreshing env db.tokens (chains.note index fresh phase (.throws error))
        index rawToken (.throws error) := by
    intro error
    rw [note_throws]
    exact ⟨.kept, .refused error⟩
  cases refreshing with
  | asked =>
      cases moves with
      | failed _ error => exact failing error
      | quiet plain => contradiction
      | granted gives under =>
          cases gives with
          | refresh found account isUnrevoked =>
              have present := db.tokens.byHash.mem_of_find? found
              exact ⟨.kept, .checked rfl
                ⟨db.tokens.byHash.key_of_find? found, _, present, rfl, rfl⟩
                under⟩
      | detected tenantId found revoked late => exact ⟨.kept, .reused _ _⟩
  | checked origin presented under =>
      cases under with
      | findApp tenant clientId =>
          cases moves with
          | failed _ error => exact failing error
          | quiet plain => contradiction
          | granted gives goesOn =>
              cases gives
              exact ⟨.kept, .checked origin presented goesOn⟩
      | findEnablement tenant app =>
          cases moves with
          | failed _ error => exact failing error
          | quiet plain => contradiction
          | granted gives goesOn =>
              cases gives
              exact ⟨.kept, .checked origin presented goesOn⟩
      | rotate sameOrigin =>
          rw [origin, Origin.refresh.injEq] at sameOrigin
          subst sameOrigin
          cases moves with
          | failed _ error => exact failing error
          | quiet plain => contradiction
          | granted gives goesOn => cases gives
          | rotated _ _ revoked =>
              obtain ⟨present, rfl⟩ := Tokens.of_revokeById revoked
              refine ⟨.rotated _ now present (unrevoked _ rfl), ?_⟩
              apply Refreshing.rotated origin
                (presented.extends (Tokens.extends_revoke _ now))
              · exact Function.update_self _ _ _
              · exact Function.update_self _ _ _
      | createToken isLogin =>
          rw [origin] at isLogin
          contradiction
  | rotated origin presented isRotated isHeld =>
      cases moves with
      | failed _ error => exact failing error
      | quiet plain => contradiction
      | granted gives goesOn => cases gives
      | created grant created =>
          have creates := Tokens.creates_of_create created
          rw [note_issued, Grant.issued, origin]
          exact ⟨.successor _ _ creates isHeld, .answered _
            (presented.extends creates.extends) isRotated⟩
  | answered session presented isRotated =>
      cases moves with
      | ended outcome => exact ⟨.kept, .answered session presented isRotated⟩
      | failed _ error => exact failing error
      | quiet plain => contradiction
      | granted gives goesOn => cases gives
  | reused stored tenantId =>
      cases moves with
      | failed _ error => exact failing error
      | quiet plain => contradiction
      | granted gives goesOn => cases gives
      | revokedReused _ _ => exact ⟨.revoked _ now, .recorded _ _ _⟩
  | recorded stored tenantId count =>
      cases moves with
      | failed _ error => exact failing error
      | quiet plain => contradiction
      | granted gives goesOn => cases gives
      | recordedReuse _ _ _ event => exact ⟨.kept, .refused _⟩
  | refused error =>
      cases moves with
      | ended outcome => exact ⟨.kept, .refused error⟩
      | failed _ error => exact failing error
      | quiet plain => contradiction
      | granted gives goesOn => cases gives

end Mover

/-! ## Runs -/

/-- The session calls with the record of the chains beside them. -/
def chainedSessions (env : AuthEnv) :
    Pool AuthDb Call × Chains → PoolEvent (Nat × Request) (Nat × Fresh) →
      Option (Pool AuthDb Call × Chains) :=
  (sessions env).watch (observeChains env)

theorem follows_begins
    (env : AuthEnv)
    (db : AuthDb)
    (chains : Chains)
    (index : Nat)
    (request : Nat × Request) :
    Follows env db chains index ((sessions env).begins request) := by
  obtain ⟨device, request⟩ := request
  simp only [Follows, sessions]
  cases request with
  | refresh rawToken => exact .asked
  | login dto ip => exact ofRefresh_begins env (fun _ => by simp)
  | logout rawToken => exact ofRefresh_begins env (fun _ => by simp)
  | resetPassword token password =>
      exact ofRefresh_begins env (fun _ => by simp)
  | updateUser id dto => exact ofRefresh_begins env (fun _ => by simp)

/-- A statement of a call keeps the chains sound, its own call where it may
stand, and every other one as well. -/
theorem follows_advance
    (env : AuthEnv)
    {pool : Pool AuthDb Call}
    {chains : Chains}
    {index : Nat}
    {input : Nat × Fresh}
    {call : Call}
    (holds : Program.Holds (fun db chains => Sound db.tokens chains)
      (Follows env) (pool, chains))
    (unrevoked : FindsUnrevoked (pool, chains) (.advance index input))
    (present : pool.calls[index]? = some call) :
    Sound ((sessions env).step input pool.data call).1.tokens
        (observeChains env chains index input pool.data call) ∧
      Follows env ((sessions env).step input pool.data call).1
        (observeChains env chains index input pool.data call) index
        ((sessions env).step input pool.data call).2 ∧
      ∀ other bystander, other ≠ index →
        pool.calls[other]? = some bystander →
          Follows env ((sessions env).step input pool.data call).1
            (observeChains env chains index input pool.data call) other
            bystander := by
  obtain ⟨device, request, phase⟩ := call
  have moves := moves_step env input.1 input.2 pool.data phase
  have follows := holds.ofCall index _ present
  have result : ChainEffect pool.data.tokens chains index
        (phase.step env input.1 input.2 pool.data).1.tokens
        (chains.note index input.2 phase
          (phase.step env input.1 input.2 pool.data).2) ∧
      Follows env (phase.step env input.1 input.2 pool.data).1
        (chains.note index input.2 phase
          (phase.step env input.1 input.2 pool.data).2) index
        ⟨device, request,
          (phase.step env input.1 input.2 pool.data).2⟩ := by
    cases request with
    | refresh rawToken =>
        exact refreshing_moves follows moves (unrevoked _ present)
    | _ => exact ⟨chainEffect_of_notRefresh moves follows,
        moves.ofRefresh follows⟩
  obtain ⟨effect, ofMover⟩ := result
  refine ⟨effect.sound holds.ofData, ofMover, ?_⟩
  intro other bystander apart found
  have before := holds.ofCall other bystander found
  unfold Follows at before ⊢
  split at before
  · exact before.undisturbed effect holds.ofData apart
  · exact before

/-- Whatever chains the tokens of a database form, with at most one unrevoked
token each: in every interleaving of session calls in which every revoking
statement of a refresh finds its token unrevoked, at most one refresh of a token
returns a session, and at most one token of each chain is neither revoked nor
expired. -/
theorem refresh_rotates_once
    (env : AuthEnv)
    {db : AuthDb}
    {chain : String → Nat}
    {next : Nat}
    {events : List (PoolEvent (Nat × Request) (Nat × Fresh))}
    {final : Pool AuthDb Call × Chains}
    (numbered : ∀ token ∈ db.tokens.rows, chain token.id < next)
    (single : ∀ left ∈ db.tokens.rows, ∀ right ∈ db.tokens.rows,
      left.revokedAt = none → right.revokedAt = none →
        chain left.id = chain right.id → left = right)
    (run : Run (chainedSessions env) FindsUnrevoked
      (⟨db, []⟩, Chains.start chain next) events final) :
    (∀ (rawToken : String) (left right : Nat) (leftCall rightCall : Call),
      final.1.calls[left]? = some leftCall →
      final.1.calls[right]? = some rightCall →
      leftCall.returnedFor rawToken = true →
      rightCall.returnedFor rawToken = true → left = right) ∧
    ∀ now, ∀ left ∈ final.1.data.tokens.rows,
      ∀ right ∈ final.1.data.tokens.rows,
        left.live now = true → right.live now = true →
          final.2.chain left.id = final.2.chain right.id → left = right := by
  have holds : Program.Holds (fun db chains => Sound db.tokens chains)
      (Follows env) final := by
    apply Program.always _ _ _ run
    · refine ⟨⟨?_, single, numbered, ?_⟩, ?_⟩
      · intro id index isRotated
        contradiction
      · intro chain index isHeld
        contradiction
      · intro index call present
        contradiction
    · intro pool chains request _ _
      exact follows_begins env pool.data chains pool.calls.length request
    · intro pool chains index input call holds unrevoked present
      exact follows_advance env holds unrevoked present
    · intro db chains index call _ follows
      unfold Follows at follows ⊢
      split
      · exact .refused _
      · rfl
  refine ⟨?_, ?_⟩
  · intro rawToken left right leftCall rightCall leftPresent rightPresent
      leftReturned rightReturned
    obtain ⟨leftRow, leftStored, leftHash, leftRotated⟩ :=
      (holds.ofCall left leftCall leftPresent).rotated leftReturned
    obtain ⟨rightRow, rightStored, rightHash, rightRotated⟩ :=
      (holds.ofCall right rightCall rightPresent).rotated rightReturned
    have sameRow := Tokens.eq_of_hash leftStored rightStored
      (leftHash.trans rightHash.symm)
    rw [sameRow, rightRotated] at leftRotated
    exact (Option.some.inj leftRotated).symm
  · intro now left leftPresent right rightPresent leftLive rightLive sameChain
    simp only [RefreshToken.live, Bool.and_eq_true,
      Option.isNone_iff_eq_none] at leftLive rightLive
    exact holds.ofData.single left leftPresent right rightPresent leftLive.1
      rightLive.1 sameChain

/-! ## Two refreshes of one token -/

/-- A token is presented a second time after it was rotated. -/
theorem refresh_rotates_once_oneByOne :
    ∃ final, Run (chainedSessions plainEnv) FindsUnrevoked
        (⟨demoSessions oneToken, []⟩, Chains.start (fun _ => 0) 1)
        [.start (0, .refresh "raw0"), statementAt 1000 0 "" "",
          statementAt 1000 0 "" "", statementAt 1000 0 "k1" "raw1",
          .start (1, .refresh "raw0"), statementAt 2000 1 "" ""] final ∧
      ∀ now, ∀ left ∈ final.1.data.tokens.rows,
        ∀ right ∈ final.1.data.tokens.rows,
          left.live now = true → right.live now = true →
            final.2.chain left.id = final.2.chain right.id →
              left = right := by
  obtain ⟨final, run, _⟩ := Run.exists_of_execute (chainedSessions plainEnv)
    (fun state event => decide (FindsUnrevoked state event))
    (fun _ _ passed => of_decide_eq_true passed)
    (⟨demoSessions oneToken, []⟩, Chains.start (fun _ => 0) 1)
    [.start (0, .refresh "raw0"), statementAt 1000 0 "" "",
      statementAt 1000 0 "" "", statementAt 1000 0 "k1" "raw1",
      .start (1, .refresh "raw0"), statementAt 2000 1 "" ""]
    (fun _ => true) (by decide +kernel)
  exact ⟨final, run, (refresh_rotates_once plainEnv
    (by simp [demoSessions, oneToken])
    (by simp [demoSessions, oneToken]) run).2⟩

/-- Two calls read the token before either of them revokes it: both return a
session, and two tokens of the chain are live. -/
theorem concurrentRefreshes_rotateTwice :
    ∃ final, Run (chainedSessions plainEnv) (fun _ _ => True)
        (⟨demoSessions oneToken, []⟩, Chains.start (fun _ => 0) 1)
        [.start (0, .refresh "raw0"), .start (1, .refresh "raw0"),
          statementAt 1000 0 "" "", statementAt 1000 1 "" "",
          statementAt 1000 0 "" "", statementAt 1000 0 "k1" "raw1",
          statementAt 1000 1 "" "", statementAt 1000 1 "k2" "raw2"] final ∧
      final.1.calls.countP (fun call => call.returnedFor "raw0") = 2 ∧
      final.1.data.tokens.rows.countP (fun token =>
        token.live 2000 && final.2.chain token.id = 0) = 2 := by
  obtain ⟨final, run, doubled⟩ := Run.exists_of_execute
    (chainedSessions plainEnv) (fun _ _ => true) (fun _ _ _ => trivial)
    (⟨demoSessions oneToken, []⟩, Chains.start (fun _ => 0) 1)
    [.start (0, .refresh "raw0"), .start (1, .refresh "raw0"),
      statementAt 1000 0 "" "", statementAt 1000 1 "" "",
      statementAt 1000 0 "" "", statementAt 1000 0 "k1" "raw1",
      statementAt 1000 1 "" "", statementAt 1000 1 "k2" "raw2"]
    (fun state => state.1.calls.countP (fun call => call.returnedFor "raw0") = 2 &&
      state.1.data.tokens.rows.countP (fun token =>
        token.live 2000 && state.2.chain token.id = 0) = 2)
    (by decide +kernel)
  simp only [Bool.and_eq_true, decide_eq_true_eq] at doubled
  exact ⟨final, run, doubled.1, by simpa using doubled.2⟩

end Auth
end EvoPlatform
