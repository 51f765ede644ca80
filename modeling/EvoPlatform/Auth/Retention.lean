import EvoPlatform.Auth.Sessions
import EvoPlatform.Foundation.Simulation

/-!
# Retention sweeps

`RetentionService.sweep` beside the session calls.  It deletes the refresh tokens
whose revocation or expiry lies some days back.  The calls answer as they would
if nothing was ever deleted, as long as nobody presents a token that was revoked
and has been deleted since; such a token would have raised an alarm.
-/

namespace EvoPlatform
namespace Auth

/-! ## The sweep -/

/-- How many days are kept; nothing is deleted for zero days. -/
structure Retention where
  auditDays : Nat
  tokenDays : Nat

/-- The row is deleted by a sweep with this cutoff. -/
def RefreshToken.isPast (cutoff : Nat) (token : RefreshToken) : Bool :=
  token.revokedAt.any (fun revokedAt => revokedAt < cutoff) ||
    token.expiresAt < cutoff

namespace Tokens

variable (tokens : Tokens) (doomed : RefreshToken → Bool)

theorem spared_ids_nodup :
    ((tokens.rows.filter fun token => !doomed token).map
      RefreshToken.id).Nodup :=
  tokens.idsNodup.sublist (List.filter_sublist.map _)

theorem spared_hashes_nodup :
    ((tokens.rows.filter fun token => !doomed token).map
      RefreshToken.tokenHash).Nodup :=
  tokens.hashesNodup.sublist (List.filter_sublist.map _)

/-- `refreshToken.deleteMany`. -/
def deleteMany : Tokens where
  rows := tokens.rows.filter fun token => !doomed token
  idsNodup := tokens.spared_ids_nodup doomed
  hashesNodup := tokens.spared_hashes_nodup doomed

end Tokens

namespace Retention

variable (retention : Retention) (now : Nat)

/-- What a sweep deletes of the tokens. -/
def doomed (token : RefreshToken) : Bool :=
  0 < retention.tokenDays &&
    token.isPast (now - retention.tokenDays * 86400000)

/-- The statement of a sweep on the tokens, and how many rows it deletes. -/
def sweepTokens (db : AuthDb) : AuthDb × Nat :=
  ({ db with tokens := db.tokens.deleteMany (retention.doomed now) },
    db.tokens.rows.countP (retention.doomed now))

/-- The statement of a sweep on the trail, whose events were created at these
times. -/
def sweepAudit (createdAt : Nat → Nat) (db : AuthDb) : AuthDb × Nat :=
  let isOld (event : AuditEvent × Nat) : Bool :=
    0 < retention.auditDays &&
      createdAt event.2 < now - retention.auditDays * 86400000
  ({ db with audit :=
      (db.audit.zipIdx.filter fun event => !isOld event).map Prod.fst },
    db.audit.zipIdx.countP isOld)

end Retention

/-! ## Sweeps beside calls -/

/-- The calls, the rows that sweeps have deleted, as they would be by now, and
the time of the last sweep. -/
structure SweptSite where
  pool : Pool AuthDb Call
  gone : List RefreshToken
  sweptAt : Nat

inductive SweptEvent
  | ofPool (event : PoolEvent (Nat × Request) (Nat × Fresh))
  | sweepTokens (now : Nat)
  | sweepAudit (now : Nat) (createdAt : Nat → Nat)

namespace Phase

/-- The rows that the next statement of a call revokes, of whatever there is. -/
def revoking (env : AuthEnv) (now : Nat) (db : AuthDb) :
    Phase → RefreshToken → Bool
  | .revokeReused stored _ => Tokens.ofUser stored.userId
  | .revokePresented rawToken => Tokens.ofHash (env.sha256 rawToken)
  | .resetTransaction user passwordHash =>
      if (db.accounts.updateUser user.id fun stored =>
          { stored with
            passwordHash := passwordHash
            emailVerifiedAt := some (user.emailVerifiedAt.getD now) }).isSome
      then Tokens.ofUser user.id else fun _ => false
  | .revokeSessions update _ => Tokens.ofUser update.existing.id
  | _ => fun _ => false

/-- The token that a call has read and is to revoke. -/
def held : Phase → Option RefreshToken
  | .rotate _ stored => some stored
  | .findApp grant _ _ | .findEnablement grant _ _ =>
      match grant.origin with
      | .refresh stored => some stored
      | .login _ => none
  | _ => none

end Phase

namespace SweptSite

variable (env : AuthEnv) (retention : Retention)

/-- What would have become of the rows that were deleted. -/
def goneAfter (site : SweptSite) :
    PoolEvent (Nat × Request) (Nat × Fresh) → List RefreshToken
  | .advance index input =>
      match site.pool.calls[index]? with
      | some call => site.gone.map
          (Tokens.revokedIf (call.phase.revoking env input.1 site.pool.data)
            input.1)
      | none => site.gone
  | _ => site.gone

/-- One event. -/
def step (site : SweptSite) : SweptEvent → Option SweptSite
  | .ofPool event =>
      ((sessions env).poolStep site.pool event).map fun pool =>
        { site with pool := pool, gone := site.goneAfter env event }
  | .sweepTokens now => some
      { pool := { site.pool with
          data := (retention.sweepTokens now site.pool.data).1 }
        gone := site.gone ++
          site.pool.data.tokens.rows.filter (retention.doomed now)
        sweptAt := max site.sweptAt now }
  | .sweepAudit now createdAt => some
      { site with pool := { site.pool with
          data := (retention.sweepAudit now createdAt site.pool.data).1 } }

/-- The hash of the token that the next statement looks for. -/
def sought (site : SweptSite) (index : Nat) : Option String :=
  (site.pool.calls[index]?).bind fun call =>
    match call.phase with
    | .findToken rawToken => some (env.sha256 rawToken)
    | _ => none

/-- A token that was deleted is presented only while it is not revoked, and its
user is there; new tokens are none of those that were deleted, the clock is not
set back, and no sweep deletes what a call is about to rotate. -/
def Spared (site : SweptSite) : SweptEvent → Prop
  | .ofPool (.advance index (now, fresh)) =>
      site.sweptAt ≤ now ∧
      (∀ token ∈ site.gone, token.id ≠ fresh.id ∧
        token.tokenHash ≠ env.sha256 fresh.rawRefresh) ∧
      ∀ token ∈ site.gone, site.sought env index = some token.tokenHash →
        token.revokedAt = none ∧
          (site.pool.data.accounts.users.find? token.userId).isSome
  | .ofPool _ => True
  | .sweepTokens now => ∀ call ∈ site.pool.calls, ∀ stored ∈ call.phase.held,
      ∀ token ∈ site.pool.data.tokens.rows,
        retention.doomed now token = true → token.id ≠ stored.id
  | .sweepAudit _ _ => True

instance (site : SweptSite) :
    (event : SweptEvent) → Decidable (site.Spared env retention event)
  | .ofPool (.start _) => isTrue trivial
  | .ofPool (.advance _ (_, _)) =>
      inferInstanceAs (Decidable (_ ≤ _ ∧ (∀ _ ∈ _, _) ∧ ∀ _ ∈ _, _ → _))
  | .ofPool (.abandon _) => isTrue trivial
  | .sweepTokens _ => inferInstanceAs (Decidable
      (∀ _ ∈ _, ∀ _ ∈ _, ∀ _ ∈ _, _ → _))
  | .sweepAudit _ _ => isTrue trivial

end SweptSite

/-! ## Calls that answer alike -/

/-- Phases that differ in nothing but a count that is recorded. -/
inductive Phase.Alike : Phase → Phase → Prop
  | same (phase : Phase) : Alike phase phase
  | reuse (stored : RefreshToken) (tenantId : Option String)
      (count other : Nat) :
      Alike (.recordReuse stored tenantId count)
        (.recordReuse stored tenantId other)
  | sessions (update : UserUpdate) (written : User) (count other : Nat) :
      Alike (.recordSessions update written count)
        (.recordSessions update written other)

/-- What a call has answered. -/
def Call.answer (call : Call) : Option (Except AuthError Answer) :=
  match call.phase with
  | .done outcome => some outcome
  | _ => none

/-- The same call, where it stands in two pools. -/
structure Call.Alike (call twin : Call) : Prop where
  device : twin.device = call.device
  request : twin.request = call.request
  phase : call.phase.Alike twin.phase

theorem Call.Alike.answer {call twin : Call} (alike : call.Alike twin) :
    twin.answer = call.answer := by
  obtain ⟨_, _, phase⟩ := call
  obtain ⟨_, _, other⟩ := twin
  obtain ⟨_, _, phases⟩ := alike
  dsimp only at phases
  cases phases <;> rfl

theorem map_answer_of_alike
    {calls twins : List Call}
    (alike : List.Forall₂ Call.Alike calls twins) :
    twins.map Call.answer = calls.map Call.answer := by
  induction alike with
  | nil => rfl
  | cons first _ inductionHypothesis =>
      rw [List.map_cons, List.map_cons, first.answer, inductionHypothesis]

/-- A pool in which nothing was deleted. -/
structure Mirrors (site : SweptSite) (full : Pool AuthDb Call) : Prop where
  accounts : full.data.accounts = site.pool.data.accounts
  tokens : full.data.tokens.rows.Perm (site.pool.data.tokens.rows ++ site.gone)
  calls : List.Forall₂ Call.Alike site.pool.calls full.calls
  /-- What was deleted and is not revoked has expired. -/
  expired : ∀ token ∈ site.gone, token.revokedAt = none →
    token.expiresAt < site.sweptAt
  unheld : ∀ call ∈ site.pool.calls, ∀ stored ∈ call.phase.held,
    ∀ token ∈ site.gone, token.id ≠ stored.id

/-! ## Phases that leave the tokens alone -/

namespace Phase

/-- The next statement reads or writes tokens. -/
def usesTokens : Phase → Bool
  | .findToken .. | .rotate .. | .revokeReused .. | .createToken ..
  | .revokePresented .. | .resetTransaction .. | .revokeSessions .. => true
  | _ => false

end Phase

section Blind

variable {env : AuthEnv} {now : Nat} {fresh : Fresh} {db full : AuthDb}
  {phase : Phase}

/-- Statements that do not use the tokens do the same whatever tokens there
are. -/
theorem step_of_blind
    (env : AuthEnv)
    (now : Nat)
    (fresh : Fresh)
    (blind : phase.usesTokens = false)
    (accounts : full.accounts = db.accounts) :
    (phase.step env now fresh full).2 = (phase.step env now fresh db).2 ∧
      (phase.step env now fresh full).1.accounts =
        (phase.step env now fresh db).1.accounts ∧
      (phase.step env now fresh full).1.tokens = full.tokens ∧
      (phase.step env now fresh db).1.tokens = db.tokens := by
  cases phase with
  | findToken | rotate | revokeReused | createToken | revokePresented
  | resetTransaction | revokeSessions => contradiction
  | writeUser update =>
      simp only [Phase.step, accounts]
      split <;> simp [accounts]
  | _ => simp [Phase.step, AuthDb.record, accounts]

theorem revoking_of_blind (blind : phase.usesTokens = false)
    (token : RefreshToken) :
    phase.revoking env now db token = false := by
  cases phase <;> first | rfl | contradiction

/-- A call without a token holds none. -/
theorem held_of_tokenless (tokenless : phase.tokenless = true) :
    phase.held = none := by
  cases phase <;> first | rfl | contradiction

theorem origin_of_held
    {grant : Grant}
    {stored : RefreshToken}
    (under : Phase.Under grant phase)
    (holds : stored ∈ phase.held) :
    grant.origin = .refresh stored := by
  cases under with
  | findApp | findEnablement =>
      simp only [Phase.held, Option.mem_def] at holds
      split at holds
      · rename_i read origin
        rw [origin, Option.some.inj holds]
      · contradiction
  | rotate origin => rw [origin, Option.some.inj holds]
  | createToken => contradiction

/-- A call holds a token from when it has read it until it revokes it. -/
theorem held_of_moves
    {after : AuthDb}
    {next : Phase}
    {stored : RefreshToken}
    (moves : Phase.Moves env now fresh db phase after next)
    (holds : stored ∈ next.held) :
    stored ∈ phase.held ∨ stored ∈ db.tokens.rows := by
  cases moves with
  | quiet _ tokenless | endedSessions _ _ tokenless =>
      rw [held_of_tokenless tokenless] at holds
      contradiction
  | granted gives under =>
      have origin := origin_of_held under holds
      cases gives with
      | login => contradiction
      | refresh found _ _ =>
          obtain rfl := Origin.refresh.inj origin
          exact .inr (db.tokens.byHash.mem_of_find? found)
      | app grant tenant clientId =>
          exact .inl (by simp [Phase.held, origin])
      | enablement grant tenant app =>
          exact .inl (by simp [Phase.held, origin])
  | created grant =>
      unfold Grant.issued at holds
      split at holds <;> contradiction
  | wrote update written =>
      unfold UserUpdate.written at holds
      split at holds
      · contradiction
      · rw [held_of_tokenless (update.tokenless_revoked written)] at holds
        contradiction
  | _ => contradiction

end Blind

/-! ## Rows that are there and rows that were deleted -/

section Rows

variable {kept all : Tokens} {gone : List RefreshToken}

/-- A row that was not deleted is found where nothing was deleted. -/
theorem find?_of_kept
    (tokens : all.rows.Perm (kept.rows ++ gone))
    {hash : String}
    {stored : RefreshToken}
    (found : kept.byHash.find? hash = some stored) :
    all.byHash.find? hash = some stored := by
  apply (Table.find?_eq_some_iff _ _ _).mpr
  refine ⟨tokens.mem_iff.mpr (List.mem_append_left _ ?_), ?_⟩
  · exact kept.byHash.mem_of_find? found
  · exact kept.byHash.key_of_find? found

/-- A row that is found only where nothing was deleted was deleted. -/
theorem mem_gone_of_found
    (tokens : all.rows.Perm (kept.rows ++ gone))
    {hash : String}
    {stored : RefreshToken}
    (missing : kept.byHash.find? hash = none)
    (found : all.byHash.find? hash = some stored) :
    stored ∈ gone ∧ stored.tokenHash = hash := by
  have isHash := all.byHash.key_of_find? found
  refine ⟨?_, isHash⟩
  have present := tokens.mem_iff.mp (all.byHash.mem_of_find? found)
  refine (List.mem_append.mp present).resolve_left fun stored => ?_
  have stillFound := kept.byHash.find?_of_mem stored
  rw [isHash, missing] at stillFound
  contradiction

/-- A row that no deleted row shares its id with is there or is nowhere. -/
theorem find?_byId_isSome
    (tokens : all.rows.Perm (kept.rows ++ gone))
    {id : String}
    (others : ∀ token ∈ gone, token.id ≠ id) :
    (all.byId.find? id).isSome = (kept.byId.find? id).isSome := by
  rw [Bool.eq_iff_iff, Option.isSome_iff_exists, Option.isSome_iff_exists]
  constructor
  · rintro ⟨row, found⟩
    have isId := all.byId.key_of_find? found
    have present := tokens.mem_iff.mp (all.byId.mem_of_find? found)
    rcases List.mem_append.mp present with stored | deleted
    · exact ⟨row, (kept.byId.find?_eq_some_iff id row).mpr ⟨stored, isId⟩⟩
    · exact absurd isId (others row deleted)
  · rintro ⟨row, found⟩
    refine ⟨row, (all.byId.find?_eq_some_iff id row).mpr ⟨?_,
      kept.byId.key_of_find? found⟩⟩
    exact tokens.mem_iff.mpr
      (List.mem_append_left _ (kept.byId.mem_of_find? found))

/-- A row that was deleted is none that is there. -/
theorem apart_of_deleted
    (tokens : all.rows.Perm (kept.rows ++ gone))
    {stored token : RefreshToken}
    (present : stored ∈ kept.rows)
    (deleted : token ∈ gone) :
    token.id ≠ stored.id := by
  have ids := (tokens.map RefreshToken.id).nodup_iff.mp all.idsNodup
  rw [List.map_append] at ids
  intro same
  exact (List.nodup_append.mp ids).2.2 stored.id (List.mem_map_of_mem present)
    token.id (List.mem_map_of_mem deleted) same.symm

/-- A revocation hits what was deleted as well. -/
theorem perm_revoke
    (tokens : all.rows.Perm (kept.rows ++ gone))
    (doomed : RefreshToken → Bool)
    (now : Nat) :
    (all.revoke doomed now).rows.Perm
      ((kept.revoke doomed now).rows ++
        gone.map (Tokens.revokedIf doomed now)) := by
  have mapped := tokens.map (Tokens.revokedIf doomed now)
  rwa [List.map_append] at mapped

theorem perm_create
    {created : Tokens}
    {token : RefreshToken}
    (tokens : all.rows.Perm (kept.rows ++ gone))
    (creates : Tokens.Creates kept created token) :
    (all.rows ++ [token]).Perm (created.rows ++ gone) := by
  rw [creates.rows, List.append_assoc]
  refine (tokens.append_right [token]).trans ?_
  rw [List.append_assoc]
  exact (List.perm_append_comm).append_left kept.rows

/-- What would be revoked of nothing. -/
theorem revokedIf_of_spared
    {doomed : RefreshToken → Bool}
    {now : Nat}
    (spared : ∀ token ∈ gone, doomed token = false) :
    gone.map (Tokens.revokedIf doomed now) = gone := by
  conv_rhs => rw [← List.map_id gone]
  apply List.map_congr_left
  intro token present
  simp [Tokens.revokedIf, spared token present]

theorem gone_of_quiet
    {env : AuthEnv}
    {now : Nat}
    {db : AuthDb}
    (phase : Phase)
    (quiet : ∀ token, phase.revoking env now db token = false) :
    gone.map (Tokens.revokedIf (phase.revoking env now db) now) = gone :=
  revokedIf_of_spared fun token _ => quiet token

/-- A sweep moves rows to those that were deleted. -/
theorem perm_deleteMany
    (tokens : all.rows.Perm (kept.rows ++ gone))
    (doomed : RefreshToken → Bool) :
    all.rows.Perm
      ((kept.deleteMany doomed).rows ++ (gone ++ kept.rows.filter doomed)) := by
  have parted : kept.rows.Perm ((kept.deleteMany doomed).rows ++
      kept.rows.filter doomed) :=
    (List.perm_append_comm.trans (List.filter_append_perm doomed kept.rows)).symm
  refine tokens.trans ((parted.append_right gone).trans ?_)
  rw [List.append_assoc]
  exact List.perm_append_comm.append_left _

end Rows

/-! ## One statement -/

/-- Two databases between two statements of a call, where rows were deleted from
the one but not from the other. -/
structure Parallels (db full : AuthDb) (gone : List RefreshToken)
    (phase twin : Phase) : Prop where
  accounts : full.accounts = db.accounts
  tokens : full.tokens.rows.Perm (db.tokens.rows ++ gone)
  phases : phase.Alike twin

/-- What a statement of a call may rely on where rows were deleted. -/
structure Sheltered (env : AuthEnv) (now : Nat) (fresh : Fresh) (db : AuthDb)
    (gone : List RefreshToken) (phase : Phase) : Prop where
  unheld : ∀ stored ∈ phase.held, ∀ token ∈ gone, token.id ≠ stored.id
  newRow : ∀ token ∈ gone, token.id ≠ fresh.id ∧
    token.tokenHash ≠ env.sha256 fresh.rawRefresh
  refused : ∀ rawToken, phase = .findToken rawToken → ∀ token ∈ gone,
    token.tokenHash = env.sha256 rawToken → token.revokedAt = none ∧
      token.expiresAt < now ∧ (db.accounts.users.find? token.userId).isSome

section Statement

variable {env : AuthEnv} {now : Nat} {fresh : Fresh} {db full : AuthDb}
  {gone : List RefreshToken} {phase twin : Phase}

/-- A statement that revokes the same rows of all there are. -/
theorem Parallels.revoked
    (parallels : Parallels db full gone phase twin)
    (doomed : RefreshToken → Bool) :
    (full.revokeMany doomed now).1.tokens.rows.Perm
      ((db.revokeMany doomed now).1.tokens.rows ++
        gone.map (Tokens.revokedIf doomed now)) :=
  perm_revoke parallels.tokens doomed now

/-- A statement that does not use the tokens does the same. -/
theorem Parallels.blind
    (parallels : Parallels db full gone phase phase)
    (blind : phase.usesTokens = false) :
    Parallels (phase.step env now fresh db).1 (phase.step env now fresh full).1
      (gone.map (Tokens.revokedIf (phase.revoking env now db) now))
      (phase.step env now fresh db).2 (phase.step env now fresh full).2 := by
  obtain ⟨sameNext, sameAccounts, allTokens, keptTokens⟩ :=
    step_of_blind env now fresh blind parallels.accounts
  refine ⟨sameAccounts, ?_, ?_⟩
  · rw [allTokens, keptTokens, gone_of_quiet phase (revoking_of_blind blind)]
    exact parallels.tokens
  · rw [sameNext]
    exact .same _

/-- Both statements that look for a presented token find the same, or one that
has expired. -/
theorem Parallels.findToken
    {rawToken : String}
    (parallels : Parallels db full gone (.findToken rawToken) (.findToken rawToken))
    (sheltered : Sheltered env now fresh db gone (.findToken rawToken)) :
    ((Phase.findToken rawToken).step env now fresh full).2 =
      ((Phase.findToken rawToken).step env now fresh db).2 := by
  simp only [Phase.step, parallels.accounts]
  cases kept : db.tokens.byHash.find? (env.sha256 rawToken) with
  | some stored => rw [find?_of_kept parallels.tokens kept]
  | none =>
      cases found : full.tokens.byHash.find? (env.sha256 rawToken) with
      | none => rfl
      | some stored =>
          obtain ⟨deleted, isHash⟩ :=
            mem_gone_of_found parallels.tokens kept found
          obtain ⟨unrevoked, expired, known⟩ :=
            sheltered.refused rawToken rfl stored deleted isHash
          obtain ⟨user, account⟩ := Option.isSome_iff_exists.mp known
          simp only [account, unrevoked, continueRefresh, if_pos expired]

/-- Both statements that rotate a token find it, or neither does. -/
theorem Parallels.rotate
    {grant : Grant}
    {stored : RefreshToken}
    (parallels : Parallels db full gone (.rotate grant stored)
      (.rotate grant stored))
    (sheltered : Sheltered env now fresh db gone (.rotate grant stored)) :
    Parallels ((Phase.rotate grant stored).step env now fresh db).1
      ((Phase.rotate grant stored).step env now fresh full).1 gone
      ((Phase.rotate grant stored).step env now fresh db).2
      ((Phase.rotate grant stored).step env now fresh full).2 := by
  have others := sheltered.unheld stored rfl
  have both := find?_byId_isSome parallels.tokens others
  simp only [Phase.step, Tokens.revokeById]
  cases kept : db.tokens.byId.find? stored.id with
  | none =>
      rw [kept, Option.isSome_none, Option.isSome_eq_false_iff,
        Option.isNone_iff_eq_none] at both
      simp only [both, Option.map_none]
      exact ⟨parallels.accounts, parallels.tokens, .same _⟩
  | some row =>
      rw [kept, Option.isSome_some] at both
      obtain ⟨other, found⟩ := Option.isSome_iff_exists.mp both
      simp only [found, Option.map_some]
      refine ⟨parallels.accounts, ?_, .same _⟩
      have perm := perm_revoke parallels.tokens
        (fun token => token.id = stored.id) now
      rwa [revokedIf_of_spared fun token deleted =>
        decide_eq_false (others token deleted)] at perm

/-- Both statements that store a token succeed, or neither does. -/
theorem Parallels.createToken
    {grant : Grant}
    (parallels : Parallels db full gone (.createToken grant) (.createToken grant))
    (sheltered : Sheltered env now fresh db gone (.createToken grant)) :
    Parallels ((Phase.createToken grant).step env now fresh db).1
      ((Phase.createToken grant).step env now fresh full).1 gone
      ((Phase.createToken grant).step env now fresh db).2
      ((Phase.createToken grant).step env now fresh full).2 := by
  simp only [Phase.step]
  cases creation : db.tokens.create (grant.token env now fresh) with
  | some created =>
      have creates := Tokens.creates_of_create creation
      obtain ⟨all, createdAll⟩ : ∃ all,
          full.tokens.create (grant.token env now fresh) = some all := by
        apply Tokens.create_of_new
        · intro other present
          rcases List.mem_append.mp (parallels.tokens.mem_iff.mp present) with
            stored | deleted
          · exact creates.newId other stored
          · exact (sheltered.newRow other deleted).1
        · intro other present
          rcases List.mem_append.mp (parallels.tokens.mem_iff.mp present) with
            stored | deleted
          · exact creates.newHash other stored
          · exact (sheltered.newRow other deleted).2
      rw [createdAll]
      refine ⟨parallels.accounts, ?_, .same _⟩
      have perm := perm_create parallels.tokens creates
      rwa [← (Tokens.creates_of_create createdAll).rows] at perm
  | none =>
      have refused : full.tokens.create (grant.token env now fresh) = none := by
        rw [Option.eq_none_iff_forall_ne_some]
        intro all createdAll
        have creates := Tokens.creates_of_create createdAll
        obtain ⟨created, isCreated⟩ : ∃ created,
            db.tokens.create (grant.token env now fresh) = some created := by
          apply Tokens.create_of_new
          · intro other present
            exact creates.newId other
              (parallels.tokens.mem_iff.mpr (List.mem_append_left _ present))
          · intro other present
            exact creates.newHash other
              (parallels.tokens.mem_iff.mpr (List.mem_append_left _ present))
        rw [creation] at isCreated
        contradiction
      rw [refused]
      exact ⟨parallels.accounts, parallels.tokens, .same _⟩

/-- Where a call stands after one statement or two. -/
inductive Leads (env : AuthEnv) (now : Nat) (fresh : Fresh) (db : AuthDb)
    (phase : Phase) : AuthDb → Phase → Prop
  | once :
      Leads env now fresh db phase (phase.step env now fresh db).1
        (phase.step env now fresh db).2
  | twice :
      Leads env now fresh db phase
        ((phase.step env now fresh db).2.step env now fresh
          (phase.step env now fresh db).1).1
        ((phase.step env now fresh db).2.step env now fresh
          (phase.step env now fresh db).1).2

/-- Sessions that are ended are recorded, if there were any. -/
theorem next_revokeSessions (update : UserUpdate) (written : User)
    (db : AuthDb) :
    ((Phase.revokeSessions update written).step env now fresh db).2 =
      if 0 < db.tokens.rows.countP (Tokens.ofUser update.existing.id) then
        .recordSessions update written
          (db.tokens.rows.countP (Tokens.ofUser update.existing.id))
      else update.revoked written :=
  rfl

/-- Where nothing was deleted there may be more sessions to be ended, and then
one statement more. -/
theorem Parallels.revokeSessions
    {update : UserUpdate}
    {written : User}
    (parallels : Parallels db full gone (.revokeSessions update written)
      (.revokeSessions update written)) :
    ∃ after next,
      Leads env now fresh full (.revokeSessions update written) after next ∧
        Parallels ((Phase.revokeSessions update written).step env now fresh db).1
          after
          (gone.map (Tokens.revokedIf (Tokens.ofUser update.existing.id) now))
          ((Phase.revokeSessions update written).step env now fresh db).2
          next := by
  have tokens : (full.revokeMany (Tokens.ofUser update.existing.id)
      now).1.tokens.rows.Perm _ :=
    parallels.revoked (Tokens.ofUser update.existing.id)
  have more : db.tokens.rows.countP (Tokens.ofUser update.existing.id) ≤
      full.tokens.rows.countP (Tokens.ofUser update.existing.id) := by
    rw [parallels.tokens.countP_eq, List.countP_append]
    exact Nat.le_add_right _ _
  by_cases ended : 0 < db.tokens.rows.countP (Tokens.ofUser update.existing.id)
  · refine ⟨_, _, .once, parallels.accounts, tokens, ?_⟩
    rw [next_revokeSessions, next_revokeSessions, if_pos ended,
      if_pos (lt_of_lt_of_le ended more)]
    exact .sessions update written _ _
  · by_cases deleted :
        0 < full.tokens.rows.countP (Tokens.ofUser update.existing.id)
    · have recorded : ((Phase.revokeSessions update written).step env now fresh
          full).2 = .recordSessions update written
            (full.tokens.rows.countP (Tokens.ofUser update.existing.id)) := by
        rw [next_revokeSessions, if_pos deleted]
      refine ⟨_, _, .twice, ?_⟩
      rw [recorded, next_revokeSessions, if_neg ended]
      exact ⟨parallels.accounts, tokens, .same _⟩
    · refine ⟨_, _, .once, parallels.accounts, tokens, ?_⟩
      rw [next_revokeSessions, next_revokeSessions, if_neg deleted,
        if_neg ended]
      exact .same _

/-- Whatever a statement does where rows were deleted, it does where none were,
perhaps with one more. -/
theorem follows_step
    (parallels : Parallels db full gone phase twin)
    (sheltered : Sheltered env now fresh db gone phase) :
    ∃ after next, Leads env now fresh full twin after next ∧
      Parallels (phase.step env now fresh db).1 after
        (gone.map (Tokens.revokedIf (phase.revoking env now db) now))
        (phase.step env now fresh db).2 next := by
  obtain ⟨accounts, tokens, phases⟩ := parallels
  cases phases with
  | reuse stored tenantId count other =>
      refine ⟨_, _, .once, accounts, ?_, .same _⟩
      rw [gone_of_quiet (.recordReuse stored tenantId count) fun _ => rfl]
      exact tokens
  | sessions update written count other =>
      refine ⟨_, _, .once, accounts, ?_, .same _⟩
      rw [gone_of_quiet (.recordSessions update written count) fun _ => rfl]
      exact tokens
  | same =>
      have parallels : Parallels db full gone phase phase :=
        ⟨accounts, tokens, .same phase⟩
      by_cases blind : phase.usesTokens = false
      · exact ⟨_, _, .once, parallels.blind blind⟩
      cases phase with
      | findToken rawToken =>
          refine ⟨_, _, .once, accounts, ?_, ?_⟩
          · rw [gone_of_quiet (.findToken rawToken) fun _ => rfl]
            exact tokens
          · rw [parallels.findToken sheltered]
            exact .same _
      | rotate grant stored =>
          refine ⟨_, _, .once, ?_⟩
          rw [gone_of_quiet (.rotate grant stored) fun _ => rfl]
          exact parallels.rotate sheltered
      | createToken grant =>
          refine ⟨_, _, .once, ?_⟩
          rw [gone_of_quiet (.createToken grant) fun _ => rfl]
          exact parallels.createToken sheltered
      | revokeReused stored tenantId =>
          exact ⟨_, _, .once, accounts, parallels.revoked _,
            .reuse stored tenantId _ _⟩
      | revokePresented rawToken =>
          exact ⟨_, _, .once, accounts, parallels.revoked _, .same _⟩
      | resetTransaction user passwordHash =>
          refine ⟨_, _, .once, ?_⟩
          simp only [Phase.step, Phase.revoking, accounts]
          split
          · rename_i missing
            rw [missing, Option.isSome_none, if_neg Bool.false_ne_true,
              revokedIf_of_spared fun _ _ => rfl]
            exact ⟨accounts, tokens, .same _⟩
          · rename_i written updated
            rw [updated, Option.isSome_some, if_pos rfl]
            exact ⟨rfl, perm_revoke tokens _ now, .same _⟩
      | revokeSessions update written => exact parallels.revokeSessions
      | _ => exact absurd rfl blind

end Statement

/-! ## Runs -/

/-- What happens where nothing is deleted: the same, but for the sweeps, and
some calls move on twice. -/
inductive Matched :
    SweptEvent → List (PoolEvent (Nat × Request) (Nat × Fresh)) → Prop
  | once (event : PoolEvent (Nat × Request) (Nat × Fresh)) :
      Matched (.ofPool event) [event]
  | twice (index : Nat) (input : Nat × Fresh) :
      Matched (.ofPool (.advance index input))
        [.advance index input, .advance index input]
  | tokensSwept (now : Nat) : Matched (.sweepTokens now) []
  | auditSwept (now : Nat) (createdAt : Nat → Nat) :
      Matched (.sweepAudit now createdAt) []

section Runs

variable {env : AuthEnv} {retention : Retention} {site next : SweptSite}
  {full : Pool AuthDb Call}

/-- Any steps of calls. -/
abbrev AnyStep (_ : Pool AuthDb Call)
    (_ : PoolEvent (Nat × Request) (Nat × Fresh)) : Prop :=
  True

theorem step_advance
    (env : AuthEnv)
    {index : Nat}
    (now : Nat)
    (fresh : Fresh)
    {call : Call}
    (present : full.calls[index]? = some call) :
    (sessions env).poolStep full (.advance index (now, fresh)) =
      some ({ full with
        data := (call.phase.step env now fresh full.data).1 }.setCall index
          { call with phase := (call.phase.step env now fresh full.data).2 }) :=
  by simp [Program.poolStep, present, sessions]

/-- One statement or two of a call are a run. -/
theorem run_of_leads
    {index now : Nat}
    {fresh : Fresh}
    {call : Call}
    {after : AuthDb}
    {phase : Phase}
    (present : full.calls[index]? = some call)
    (leads : Leads env now fresh full.data call.phase after phase) :
    ∃ events, Run (sessions env).poolStep AnyStep full events
        ({ full with data := after }.setCall index
          { call with phase := phase }) ∧
      Matched (.ofPool (.advance index (now, fresh))) events := by
  cases leads with
  | once =>
      exact ⟨_, .single trivial (step_advance env now fresh present), .once _⟩
  | twice =>
      refine ⟨_, .cons trivial (step_advance env now fresh present)
        (.single trivial ?_), .twice index (now, fresh)⟩
      have inRange := (List.getElem?_eq_some_iff.mp present).1
      rw [step_advance env now fresh (List.getElem?_set_self inRange)]
      simp [Pool.setCall]

/-- A call moves on where rows were deleted. -/
theorem Mirrors.advance
    {index now : Nat}
    {fresh : Fresh}
    {call : Call}
    (mirrors : Mirrors site full)
    (present : site.pool.calls[index]? = some call)
    (spared : site.Spared env retention (.ofPool (.advance index (now, fresh)))) :
    ∃ events after, Run (sessions env).poolStep AnyStep full events after ∧
      Matched (.ofPool (.advance index (now, fresh))) events ∧
      Mirrors
        { site with
          pool := { site.pool with
            data := (call.phase.step env now fresh site.pool.data).1 }.setCall
              index { call with
                phase := (call.phase.step env now fresh site.pool.data).2 }
          gone := site.gone.map (Tokens.revokedIf
            (call.phase.revoking env now site.pool.data) now) } after := by
  obtain ⟨onTime, newRow, presented⟩ := spared
  obtain ⟨twin, found, alike⟩ := exists_of_forall₂ mirrors.calls present
  have sheltered :
      Sheltered env now fresh site.pool.data site.gone call.phase := by
    refine ⟨mirrors.unheld call (List.mem_of_getElem? present), newRow, ?_⟩
    intro rawToken isPhase token deleted isHash
    have isSought : site.sought env index = some token.tokenHash := by
      simp [SweptSite.sought, present, isPhase, isHash]
    obtain ⟨unrevoked, known⟩ := presented token deleted isSought
    exact ⟨unrevoked,
      lt_of_lt_of_le (mirrors.expired token deleted unrevoked) onTime, known⟩
  obtain ⟨after, phase, leads, parallels⟩ := follows_step
    ⟨mirrors.accounts, mirrors.tokens, alike.phase⟩ sheltered
  obtain ⟨events, run, matched⟩ := run_of_leads found leads
  refine ⟨events, _, run, matched, parallels.accounts, parallels.tokens, ?_, ?_, ?_⟩
  · exact forall₂_set mirrors.calls index
      ⟨alike.device, alike.request, parallels.phases⟩
  · intro token deleted unrevoked
    obtain ⟨old, oldDeleted, rfl⟩ := List.mem_map.mp deleted
    obtain ⟨before, spared⟩ := Tokens.revokedAt_of_revokedIf _ _ _ unrevoked
    have same : Tokens.revokedIf (call.phase.revoking env now site.pool.data)
        now old = old := by
      simp [Tokens.revokedIf, spared]
    rw [same]
    exact mirrors.expired old oldDeleted before
  · intro other isCall stored holds token deleted
    obtain ⟨old, oldDeleted, rfl⟩ := List.mem_map.mp deleted
    rw [Tokens.id_revokedIf]
    obtain ⟨place, atPlace⟩ := List.mem_iff_getElem?.mp isCall
    rcases Pool.of_getElem?_setCall atPlace with ⟨_, rfl⟩ | ⟨_, before⟩
    · rcases held_of_moves (moves_step env now fresh site.pool.data call.phase)
          holds with held | kept
      · exact mirrors.unheld call (List.mem_of_getElem? present) stored held old
          oldDeleted
      · exact apart_of_deleted mirrors.tokens kept oldDeleted
    · exact mirrors.unheld other (List.mem_of_getElem? before) stored holds old
        oldDeleted

theorem held_begins (request : Request) : (request.begins env).held = none := by
  cases request with
  | login dto ip =>
      simp only [Request.begins]
      split <;> rfl
  | resetPassword token password =>
      simp only [Request.begins]
      split <;> rfl
  | _ => rfl

/-- A call begins. -/
theorem Mirrors.start
    (mirrors : Mirrors site full)
    (request : Nat × Request) :
    Mirrors { site with pool := { site.pool with
        calls := site.pool.calls ++ [(sessions env).begins request] } }
      { full with calls := full.calls ++ [(sessions env).begins request] } where
  accounts := mirrors.accounts
  tokens := mirrors.tokens
  calls := forall₂_append_singleton mirrors.calls ⟨rfl, rfl, .same _⟩
  expired := mirrors.expired
  unheld := by
    intro call isCall stored holds
    rcases List.mem_append.mp isCall with before | isNew
    · exact mirrors.unheld call before stored holds
    · rw [List.mem_singleton.mp isNew] at holds
      rw [show ((sessions env).begins request).phase.held = none from
        held_begins request.2] at holds
      contradiction

/-- A call is given up. -/
theorem Mirrors.abandon
    {index : Nat}
    {call twin : Call}
    (mirrors : Mirrors site full)
    (alike : call.Alike twin) :
    Mirrors
      { site with
        pool := site.pool.setCall index ((sessions env).abandoned call) }
      (full.setCall index ((sessions env).abandoned twin)) where
  accounts := mirrors.accounts
  tokens := mirrors.tokens
  calls := forall₂_set mirrors.calls index
    ⟨alike.device, alike.request, .same _⟩
  expired := mirrors.expired
  unheld := by
    intro other isCall stored holds
    obtain ⟨place, atPlace⟩ := List.mem_iff_getElem?.mp isCall
    rcases Pool.of_getElem?_setCall atPlace with ⟨_, rfl⟩ | ⟨_, before⟩
    · contradiction
    · exact mirrors.unheld other (List.mem_of_getElem? before) stored holds

/-- A sweep deletes tokens. -/
theorem Mirrors.sweepTokens
    {now : Nat}
    (mirrors : Mirrors site full)
    (spared : site.Spared env retention (.sweepTokens now)) :
    Mirrors
      { pool := { site.pool with
          data := (retention.sweepTokens now site.pool.data).1 }
        gone := site.gone ++
          site.pool.data.tokens.rows.filter (retention.doomed now)
        sweptAt := max site.sweptAt now } full where
  accounts := mirrors.accounts
  tokens := perm_deleteMany mirrors.tokens (retention.doomed now)
  calls := mirrors.calls
  expired := by
    intro token deleted unrevoked
    rcases List.mem_append.mp deleted with before | removed
    · exact lt_of_lt_of_le (mirrors.expired token before unrevoked)
        (le_max_left _ _)
    · have doomed := (List.mem_filter.mp removed).2
      simp only [Retention.doomed, RefreshToken.isPast, unrevoked,
        Option.any_none, Bool.false_or, Bool.and_eq_true,
        decide_eq_true_eq] at doomed
      exact lt_of_lt_of_le (lt_of_lt_of_le doomed.2 (Nat.sub_le _ _))
        (le_max_right _ _)
  unheld := by
    intro call isCall stored holds token deleted
    rcases List.mem_append.mp deleted with before | removed
    · exact mirrors.unheld call isCall stored holds token before
    · obtain ⟨present, doomed⟩ := List.mem_filter.mp removed
      exact spared call isCall stored holds token present doomed

/-- Whatever happens where rows are deleted happens where none are. -/
theorem mirrors_step
    {event : SweptEvent}
    (mirrors : Mirrors site full)
    (spared : site.Spared env retention event)
    (stepped : site.step env retention event = some next) :
    ∃ events after, Run (sessions env).poolStep AnyStep full events after ∧
      Matched event events ∧ Mirrors next after := by
  cases event with
  | sweepTokens now =>
      obtain rfl := Option.some.inj stepped
      exact ⟨[], full, .nil full, .tokensSwept now,
        mirrors.sweepTokens spared⟩
  | sweepAudit now createdAt =>
      obtain rfl := Option.some.inj stepped
      exact ⟨[], full, .nil full, .auditSwept now createdAt, mirrors.accounts,
        mirrors.tokens, mirrors.calls, mirrors.expired, mirrors.unheld⟩
  | ofPool event =>
      simp only [SweptSite.step, Option.map_eq_some_iff] at stepped
      obtain ⟨pool, poolStepped, rfl⟩ := stepped
      cases event with
      | start request =>
          obtain rfl := Option.some.inj poolStepped
          exact ⟨_, _, .single trivial rfl, .once _, mirrors.start request⟩
      | advance index input =>
          cases present : site.pool.calls[index]? with
          | none => simp [Program.poolStep, present] at poolStepped
          | some call =>
              have stepsOn := step_advance env input.1 input.2 present
              obtain rfl := Option.some.inj (stepsOn.symm.trans poolStepped)
              have goneAfter : site.goneAfter env (.advance index input) =
                  site.gone.map (Tokens.revokedIf
                    (call.phase.revoking env input.1 site.pool.data)
                    input.1) := by
                simp [SweptSite.goneAfter, present]
              rw [goneAfter]
              exact mirrors.advance present spared
      | abandon index =>
          cases present : site.pool.calls[index]? with
          | none => simp [Program.poolStep, present] at poolStepped
          | some call =>
              simp only [Program.poolStep, present, Option.map_some,
                Option.some.injEq] at poolStepped
              obtain ⟨twin, found, alike⟩ :=
                exists_of_forall₂ mirrors.calls present
              subst poolStepped
              refine ⟨_, _, .single trivial ?_, .once _,
                mirrors.abandon alike⟩
              simp [Program.poolStep, found]

/-- A run with sweeps is a run without any: the calls answer alike, the accounts
are the same, and the tokens are those that are there and those that were
deleted. -/
theorem sweeps_unnoticed
    {db : AuthDb}
    {final : SweptSite}
    {events : List SweptEvent}
    (run : Run (SweptSite.step env retention)
      (SweptSite.Spared env retention) ⟨⟨db, []⟩, [], 0⟩ events final) :
    ∃ parts full, Run (sessions env).poolStep AnyStep ⟨db, []⟩ parts.flatten
        full ∧
      List.Forall₂ Matched events parts ∧
      full.calls.map Call.answer = final.pool.calls.map Call.answer ∧
      full.data.accounts = final.pool.data.accounts ∧
      full.data.tokens.rows.Perm
        (final.pool.data.tokens.rows ++ final.gone) := by
  have initially : Mirrors ⟨⟨db, []⟩, [], 0⟩ ⟨db, []⟩ := by
    refine ⟨rfl, ?_, .nil, ?_, ?_⟩
    · rw [List.append_nil]
    · intro token deleted
      contradiction
    · intro call isCall
      contradiction
  obtain ⟨parts, full, parallels, matched, mirrors⟩ := run.followed
    (fun _ _ _ _ mirrors spared stepped => mirrors_step mirrors spared stepped)
    initially
  exact ⟨parts, full, parallels, matched, map_answer_of_alike mirrors.calls,
    mirrors.accounts, mirrors.tokens⟩

end Runs

/-- One token of the user expired long ago. -/
def staleToken : Tokens :=
  ⟨[⟨"k0", "u1", "raw0", none, 1000, none⟩], by decide, by decide⟩

/-- The user signs in, a sweep deletes the old token, and the old token and the
new one are presented. -/
def afterAYear : List SweptEvent :=
  [.ofPool (.start (0, .login ⟨none, "a@b.co", "secret", none⟩ none)),
    .ofPool (statementAt 31536000000 0 "" ""),
    .ofPool (statementAt 31536000000 0 "" ""),
    .ofPool (statementAt 31536000000 0 "k1" "raw1"),
    .ofPool (statementAt 31536000000 0 "" ""),
    .sweepTokens 31536000000,
    .ofPool (.start (1, .refresh "raw0")),
    .ofPool (statementAt 31536000001 1 "" ""),
    .ofPool (.start (0, .refresh "raw1")),
    .ofPool (statementAt 31536000002 2 "" ""),
    .ofPool (statementAt 31536000002 2 "" ""),
    .ofPool (statementAt 31536000002 2 "k2" "raw2")]

theorem sweeps_unnoticed_afterAYear :
    ∃ final, Run (SweptSite.step plainEnv ⟨0, 30⟩)
        (SweptSite.Spared plainEnv ⟨0, 30⟩)
        ⟨⟨demoSessions staleToken, []⟩, [], 0⟩ afterAYear final ∧
      final.gone.map RefreshToken.id = ["k0"] ∧
      ∃ parts full, Run (sessions plainEnv).poolStep AnyStep
          ⟨demoSessions staleToken, []⟩ parts.flatten full ∧
        List.Forall₂ Matched afterAYear parts ∧
        full.calls.map Call.answer = final.pool.calls.map Call.answer ∧
        full.data.accounts = final.pool.data.accounts ∧
        full.data.tokens.rows.Perm
          (final.pool.data.tokens.rows ++ final.gone) := by
  obtain ⟨final, run, ends⟩ := Run.exists_of_execute
    (SweptSite.step plainEnv ⟨0, 30⟩)
    (fun site event => decide (site.Spared plainEnv ⟨0, 30⟩ event))
    (fun _ _ passed => of_decide_eq_true passed)
    ⟨⟨demoSessions staleToken, []⟩, [], 0⟩ afterAYear
    (fun site => site.gone.map RefreshToken.id = ["k0"])
    (by decide +kernel)
  exact ⟨final, run, of_decide_eq_true ends, sweeps_unnoticed run⟩

end Auth
end EvoPlatform
