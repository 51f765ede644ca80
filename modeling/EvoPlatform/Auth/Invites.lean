import EvoPlatform.Auth.Members

/-!
# Invites

`InvitesService` one database statement at a time.  An invite is found by its
id when it is resent or revoked and by the hash of its token when it is
accepted, and is written by its id in all three cases.
-/

namespace EvoPlatform
namespace Auth

/-- How long an invite may be accepted. -/
def INVITE_TTL_MS : Nat := 24 * 3600 * 1000

/-- A row of the `invites` table. -/
structure Invite where
  id : String
  tenantId : String
  email : String
  roleIds : List String
  isTenantAdmin : Bool
  invitedById : Option String
  tokenHash : String
  expiresAt : Nat
  acceptedAt : Option Nat
  deriving DecidableEq

/-- The database of the platform with its invites. -/
structure InviteDb where
  auth : AuthDb
  invites : Table Invite.id
  tokenHashUnique : invites.Unique fun invite => some invite.tokenHash

structure CreateInviteDto where
  email : String
  roleIds : Option (List String)
  isTenantAdmin : Option Bool

structure AcceptInviteDto where
  firstName : Option String
  lastName : Option String
  phone : Option String
  token : String
  password : String

/-- What a statement may draw at random. -/
structure InviteFresh extends Fresh where
  /-- `randomBytes(32)`, encoded. -/
  rawInvite : String

/-- The calls. -/
inductive InviteRequest
  | create (caller : TenantCaller) (dto : CreateInviteDto)
  | resend (caller : TenantCaller) (id : String)
  | revoke (caller : TenantCaller) (id : String)
  | accept (dto : AcceptInviteDto)

/-- What a call returns. -/
inductive InviteAnswer
  | ok
  | invite (invite : Invite)
  | accepted (tenantSlug email : String)

/-! ## The database -/

/-- Not accepted yet. -/
def Invite.isOpen (invite : Invite) : Bool := invite.acceptedAt.isNone

/-- The columns that a `resend` sets. -/
def Invite.rotate (tokenHash : String) (now : Nat) (invite : Invite) : Invite :=
  { invite with tokenHash := tokenHash, expiresAt := now + INVITE_TTL_MS }

/-- The column that an `accept` sets. -/
def Invite.accept (now : Nat) (invite : Invite) : Invite :=
  { invite with acceptedAt := some now }

/-- An open invite of a workspace to an address. -/
def Invite.isOpenFor (tenantId email : String) (invite : Invite) : Bool :=
  invite.tenantId = tenantId && invite.email = email && invite.isOpen

namespace InviteDb

theorem tokenHashUnique_empty :
    (Table.empty : Table Invite.id).Unique
      fun invite => some invite.tokenHash :=
  Table.unique_empty _

variable (db : InviteDb)

/-- Put the other tables into the database. -/
def withAuth (auth : AuthDb) : InviteDb := { db with auth := auth }

/-- Write an invite, which throws when another one has the hash. -/
def putInvite (invite : Invite) : Option InviteDb :=
  if free : db.invites.HeldElsewhere (fun invite => some invite.tokenHash)
      invite then none
  else some
    { db with
      invites := db.invites.put invite
      tokenHashUnique := db.tokenHashUnique.put invite free }

/-- `invite.create`, which throws when the id or the hash is taken, or the
tenant is missing. -/
def createInvite (invite : Invite) : Option InviteDb :=
  if (db.invites.find? invite.id).isSome ||
      (db.auth.accounts.tenants.find? invite.tenantId).isNone then none
  else db.putInvite invite

/-- `invite.update` by id, which throws when there is no such row. -/
def updateInvite (id : String) (change : Invite → Invite) : Option InviteDb :=
  (db.invites.find? id).bind fun invite => db.putInvite (change invite)

/-- `invite.deleteMany`. -/
def eraseInvites (doomed : Invite → Bool) : InviteDb :=
  { db with
    invites := db.invites.eraseWhere doomed
    tokenHashUnique := db.tokenHashUnique.eraseWhere doomed }

/-- `invite.delete` by id, which throws when there is no such row. -/
def deleteInvite (id : String) : Option InviteDb :=
  (db.invites.find? id).map fun _ => db.eraseInvites fun invite => invite.id = id

/-- `invite.findFirst` by id within a tenant. -/
def findInvite (tenantId id : String) : Option Invite :=
  (db.invites.find? id).filter fun invite => invite.tenantId = tenantId

/-- `invite.findUnique` by the hash of the token. -/
def findByHash (tokenHash : String) : Option Invite :=
  db.invites.findBy (fun invite => some invite.tokenHash) tokenHash

/-- `user.findFirst` by address within a tenant, also among those deleted. -/
def findAccount (tenantId email : String) : Option User :=
  db.auth.accounts.users.rows.find? fun user =>
    user.tenantId = some tenantId && user.email = email

end InviteDb

/-! ## Phases -/

/-- What is left of a `create` once the address is free. -/
structure InviteDraft where
  caller : TenantCaller
  email : String
  isTenantAdmin : Bool

/-- What is left of an `accept` once the invite is found. -/
structure Acceptance where
  dto : AcceptInviteDto
  invite : Invite
  tenant : Tenant

/-- Where a call stands: the statement it sends next. -/
inductive InvitePhase
  -- create
  | findMember (caller : TenantCaller) (dto : CreateInviteDto)
  | findRoles (draft : InviteDraft) (unique : List String)
  | findEnabled (draft : InviteDraft) (unique : List String)
      (roles : List StoredRole)
  | deleteOpen (draft : InviteDraft) (roleIds : List String)
  | createInvite (draft : InviteDraft) (roleIds : List String)
  -- resend and revoke
  | findResent (caller : TenantCaller) (id : String)
  | rotateToken (caller : TenantCaller) (invite : Invite)
  | findRevoked (caller : TenantCaller) (id : String)
  | deleteInvite (caller : TenantCaller) (invite : Invite)
  /-- `sendInviteEmail`, which writes to no table. -/
  | sendInvite (action : String) (caller : TenantCaller) (invite : Invite)
      (rawToken : String)
  | recordInvite (action : String) (caller : TenantCaller) (email : String)
      (answer : InviteAnswer)
  -- accept
  | findByToken (dto : AcceptInviteDto)
  | findAccount (acceptance : Acceptance)
  | findGranted (acceptance : Acceptance)
  | findStillEnabled (acceptance : Acceptance) (roles : List StoredRole)
  | hashPassword (acceptance : Acceptance) (roles : List StoredRole)
  | acceptTransaction (acceptance : Acceptance) (roles : List StoredRole)
      (passwordHash : String)
  | recordAccepted (acceptance : Acceptance) (userId : String)
  /-- The call has ended. -/
  | done (outcome : Except AuthError InviteAnswer)

/-- The call throws. -/
def InvitePhase.throws (error : AuthError) : InvitePhase := .done (.error error)

def invalidInvite : InvitePhase :=
  .throws (.badRequest "Invite link is invalid or has expired")

/-- The first phase of a call. -/
def InviteRequest.begins : InviteRequest → InvitePhase
  | .create caller dto => .findMember caller dto
  | .resend caller id => .findResent caller id
  | .revoke caller id => .findRevoked caller id
  | .accept dto => .findByToken dto

/-- The row that `create` creates. -/
def InviteDraft.invite (draft : InviteDraft) (env : AdminEnv) (now : Nat)
    (fresh : InviteFresh) (roleIds : List String) : Invite where
  id := fresh.id
  tenantId := draft.caller.tenantId
  email := draft.email
  roleIds := roleIds
  isTenantAdmin := draft.isTenantAdmin
  invitedById := some draft.caller.actorId
  tokenHash := env.sha256 fresh.rawInvite
  expiresAt := now + INVITE_TTL_MS
  acceptedAt := none

/-- The row that `accept` creates, with its roles. -/
def Acceptance.user (acceptance : Acceptance) (env : AdminEnv) (now : Nat)
    (fresh : InviteFresh) (roles : List StoredRole) (passwordHash : String) :
    User where
  id := fresh.id
  tenantId := some acceptance.invite.tenantId
  email := acceptance.invite.email
  name := fullName env.toAuthEnv acceptance.dto.firstName acceptance.dto.lastName
  firstName := acceptance.dto.firstName
  lastName := acceptance.dto.lastName
  phone := acceptance.dto.phone
  passwordHash := passwordHash
  isPlatformAdmin := false
  isTenantAdmin := acceptance.invite.isTenantAdmin
  emailVerifiedAt := some now
  deletedAt := none
  roles := roles.map fun role => ⟨role.name, role.clientId⟩

/-- Past the read of an invite by its token. -/
def AcceptInviteDto.goesOn (dto : AcceptInviteDto) (accounts : Accounts)
    (now : Nat) (invite : Invite) : InvitePhase :=
  if invite.acceptedAt.isSome || invite.expiresAt < now then invalidInvite
  else
    match accounts.tenants.find? invite.tenantId with
    | none => .throws .internal
    | some tenant =>
        if tenant.deletedAt.isSome || tenant.status = .suspended then
          invalidInvite
        else .findAccount ⟨dto, invite, tenant⟩

/-- Past the read of an invite by its id. -/
def Invite.unlessAccepted (invite : Invite) (next : InvitePhase) :
    InvitePhase :=
  if invite.acceptedAt.isSome then
    .throws (.conflict "Invite was already accepted")
  else next

/-- Carry out the statement a call waits for, and go on to the next one. -/
def InvitePhase.step (env : AdminEnv) (now : Nat) (fresh : InviteFresh)
    (db : InviteDb) : InvitePhase → InviteDb × InvitePhase
  | .findMember caller dto =>
      let email := env.toLowerCase dto.email
      let draft : InviteDraft := ⟨caller, email, dto.isTenantAdmin.getD false⟩
      let unique := (dto.roleIds.getD []).eraseDups
      (db, match db.findAccount caller.tenantId email with
        | some _ =>
            .throws (.conflict "Already a member of this workspace")
        | none =>
            if unique.length = 0 then .deleteOpen draft unique
            else .findRoles draft unique)
  | .findRoles draft unique =>
      let roles := env.roles.rows.filter fun role => unique.contains role.id
      (db, if roles.length ≠ unique.length then
          .throws (.notFound "Role not found")
        else .findEnabled draft unique roles)
  | .findEnabled draft unique roles =>
      (db, if roles.any fun role => (db.auth.accounts.appTenants.find?
            (draft.caller.tenantId, role.appId)).isNone then
          .throws (.forbidden
            "Role belongs to an app not enabled for this workspace")
        else .deleteOpen draft unique)
  | .deleteOpen draft roleIds =>
      (db.eraseInvites (Invite.isOpenFor draft.caller.tenantId draft.email),
        .createInvite draft roleIds)
  | .createInvite draft roleIds =>
      let invite := draft.invite env now fresh roleIds
      match db.createInvite invite with
      | none => (db, .throws .internal)
      | some created =>
          (created, .sendInvite "tenant.invite_created" draft.caller invite
            fresh.rawInvite)
  | .findResent caller id =>
      (db, match db.findInvite caller.tenantId id with
        | none => .throws (.notFound "Invite not found")
        | some invite => invite.unlessAccepted (.rotateToken caller invite))
  | .rotateToken caller invite =>
      match db.updateInvite invite.id
          (Invite.rotate (env.sha256 fresh.rawInvite) now) with
      | none => (db, .throws .internal)
      | some updated =>
          (updated, match updated.invites.find? invite.id with
            | none => .throws .internal
            | some written =>
                .sendInvite "tenant.invite_resent" caller written
                  fresh.rawInvite)
  | .findRevoked caller id =>
      (db, match db.findInvite caller.tenantId id with
        | none => .throws (.notFound "Invite not found")
        | some invite => invite.unlessAccepted (.deleteInvite caller invite))
  | .deleteInvite caller invite =>
      match db.deleteInvite invite.id with
      | none => (db, .throws .internal)
      | some deleted =>
          (deleted, .recordInvite "tenant.invite_revoked" caller invite.email
            .ok)
  | .sendInvite action caller invite _ =>
      (db, .recordInvite action caller invite.email (.invite invite))
  | .recordInvite action caller email answer =>
      (db.withAuth (db.auth.record ⟨action, some caller.tenantId,
        some caller.actorId, none, none, .invitee email⟩), .done (.ok answer))
  | .findByToken dto =>
      (db, match db.findByHash (env.sha256 dto.token) with
        | none => invalidInvite
        | some invite => dto.goesOn db.auth.accounts now invite)
  | .findAccount acceptance =>
      (db, match db.findAccount acceptance.invite.tenantId
          acceptance.invite.email with
        | some _ => .throws
            (.conflict "This email already has an account in the workspace")
        | none =>
            if acceptance.invite.roleIds.length = 0 then
              .hashPassword acceptance []
            else .findGranted acceptance)
  | .findGranted acceptance =>
      (db, .findStillEnabled acceptance (env.roles.rows.filter fun role =>
        acceptance.invite.roleIds.contains role.id))
  | .findStillEnabled acceptance roles =>
      (db, .hashPassword acceptance (roles.filter fun role =>
        (db.auth.accounts.appTenants.find?
          (acceptance.invite.tenantId, role.appId)).isSome))
  | .hashPassword acceptance roles =>
      (db, .acceptTransaction acceptance roles
        (env.bcryptHash acceptance.dto.password fresh.salt))
  | .acceptTransaction acceptance roles passwordHash =>
      let user := acceptance.user env now fresh roles passwordHash
      match db.auth.accounts.createUser user with
      | none => (db, .throws .internal)
      | some accounts =>
          match db.updateInvite acceptance.invite.id (Invite.accept now) with
          | none => (db, .throws .internal)
          | some accepted =>
              (accepted.withAuth (db.auth.withAccounts accounts),
                .recordAccepted acceptance user.id)
  | .recordAccepted acceptance userId =>
      (db.withAuth (db.auth.record ⟨"tenant.invite_accepted",
        some acceptance.invite.tenantId, some userId, none, none,
        .invitee acceptance.invite.email⟩),
        .done (.ok (.accepted acceptance.tenant.slug acceptance.invite.email)))
  | .done outcome => (db, .done outcome)

/-- The calls on invites as a program. -/
def inviteCalls (env : AdminEnv) :
    Program InviteDb InviteRequest (Nat × InviteFresh) InvitePhase where
  begins := InviteRequest.begins
  step := fun input db phase => phase.step env input.1 input.2 db
  abandoned := fun _ => .throws .internal

/-! ## What a statement can do -/

namespace InviteDb

variable {db after : InviteDb}

theorem of_putInvite
    {invite : Invite}
    (written : db.putInvite invite = some after) :
    after.auth = db.auth ∧ after.invites = db.invites.put invite := by
  unfold putInvite at written
  split at written
  · contradiction
  · obtain rfl := Option.some.inj written
    exact ⟨rfl, rfl⟩

/-- A created invite has a new id, and is added to the others. -/
theorem of_createInvite
    {invite : Invite}
    (created : db.createInvite invite = some after) :
    after.auth = db.auth ∧
      ∀ row, row ∈ after.invites.rows ↔ row = invite ∨ row ∈ db.invites.rows := by
  unfold createInvite at created
  split at created
  · contradiction
  · rename_i isNew
    obtain ⟨sameAuth, written⟩ := of_putInvite created
    refine ⟨sameAuth, ?_⟩
    intro row
    rw [written, Table.mem_put_iff]
    refine or_congr_right (and_iff_left_of_imp ?_)
    intro present same
    have found := db.invites.find?_of_mem present
    simp [← same, found] at isNew

/-- An updated invite takes the place of the stored one. -/
theorem of_updateInvite
    {id : String}
    {change : Invite → Invite}
    (updated : db.updateInvite id change = some after)
    (sameId : ∀ invite, (change invite).id = invite.id) :
    after.auth = db.auth ∧ ∃ stored, db.invites.find? id = some stored ∧
      ∀ row, row ∈ after.invites.rows ↔
        row = change stored ∨ (row ∈ db.invites.rows ∧ row.id ≠ id) := by
  simp only [updateInvite, Option.bind_eq_some_iff] at updated
  obtain ⟨stored, found, written⟩ := updated
  obtain ⟨sameAuth, written⟩ := of_putInvite written
  refine ⟨sameAuth, stored, found, ?_⟩
  intro row
  have isId : stored.id = id := db.invites.key_of_find? found
  rw [written, Table.mem_put_iff, sameId, isId]

/-- Erased invites are the only ones to go. -/
theorem mem_eraseInvites_iff
    {doomed : Invite → Bool}
    {row : Invite} :
    row ∈ (db.eraseInvites doomed).invites.rows ↔
      row ∈ db.invites.rows ∧ doomed row = false := by
  simp [eraseInvites, Table.eraseWhere]

theorem of_deleteInvite
    {id : String}
    (deleted : db.deleteInvite id = some after) :
    after.auth = db.auth ∧ (db.invites.find? id).isSome ∧
      ∀ row, row ∈ after.invites.rows ↔
        row ∈ db.invites.rows ∧ row.id ≠ id := by
  simp only [deleteInvite, Option.map_eq_some_iff] at deleted
  obtain ⟨stored, found, rfl⟩ := deleted
  refine ⟨rfl, by rw [found]; rfl, ?_⟩
  intro row
  rw [mem_eraseInvites_iff]
  simp

end InviteDb

namespace InvitePhase

/-- What a statement does to the invites and the accounts. -/
inductive Effect (env : AdminEnv) (now : Nat) (fresh : InviteFresh)
    (db : InviteDb) : InvitePhase → InviteDb → Prop
  | none {phase : InvitePhase} {after : InviteDb} :
      after.invites = db.invites →
      after.auth.accounts = db.auth.accounts →
      Effect env now fresh db phase after
  | deletedOpen (draft : InviteDraft) (roleIds : List String) :
      Effect env now fresh db (.deleteOpen draft roleIds)
        (db.eraseInvites (Invite.isOpenFor draft.caller.tenantId draft.email))
  | created (draft : InviteDraft) (roleIds : List String) {after : InviteDb} :
      db.createInvite (draft.invite env now fresh roleIds) = some after →
      Effect env now fresh db (.createInvite draft roleIds) after
  | rotated (caller : TenantCaller) (invite : Invite) {after : InviteDb} :
      db.updateInvite invite.id
        (Invite.rotate (env.sha256 fresh.rawInvite) now) = some after →
      Effect env now fresh db (.rotateToken caller invite) after
  | deleted (caller : TenantCaller) (invite : Invite) {after : InviteDb} :
      db.deleteInvite invite.id = some after →
      Effect env now fresh db (.deleteInvite caller invite) after
  | accepted (acceptance : Acceptance) (roles : List StoredRole)
      (passwordHash : String) {accounts : Accounts} {accepted : InviteDb} :
      db.auth.accounts.createUser
        (acceptance.user env now fresh roles passwordHash) = some accounts →
      db.updateInvite acceptance.invite.id (Invite.accept now) =
        some accepted →
      Effect env now fresh db (.acceptTransaction acceptance roles passwordHash)
        (accepted.withAuth (db.auth.withAccounts accounts))

end InvitePhase

/-- Every statement has such an effect. -/
theorem effect_step
    (env : AdminEnv)
    (now : Nat)
    (fresh : InviteFresh)
    (db : InviteDb)
    (phase : InvitePhase) :
    phase.Effect env now fresh db (phase.step env now fresh db).1 := by
  cases phase with
  | deleteOpen draft roleIds => exact .deletedOpen draft roleIds
  | createInvite draft roleIds =>
      simp only [InvitePhase.step]
      split
      · exact .none rfl rfl
      · rename_i after created
        exact .created draft roleIds created
  | rotateToken caller invite =>
      simp only [InvitePhase.step]
      split
      · exact .none rfl rfl
      · rename_i after updated
        exact .rotated caller invite updated
  | deleteInvite caller invite =>
      simp only [InvitePhase.step]
      split
      · exact .none rfl rfl
      · rename_i after deleted
        exact .deleted caller invite deleted
  | acceptTransaction acceptance roles passwordHash =>
      simp only [InvitePhase.step]
      split
      · exact .none rfl rfl
      · rename_i accounts created
        split
        · exact .none rfl rfl
        · rename_i accepted updated
          exact .accepted acceptance roles passwordHash created updated
  | _ => exact .none rfl rfl

end Auth
end EvoPlatform
