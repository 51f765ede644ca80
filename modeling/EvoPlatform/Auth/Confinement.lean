import EvoPlatform.Auth.InviteTokens
import Mathlib.Data.List.Perm.Subperm

/-!
# Tenant admins stay in their workspace

Each call on members or invites, with the database to itself.  A statement may
change only rows of the workspace for which the call acts, none of a platform
admin, and grants only roles of apps that are enabled there; what a call has
read, and which checks it has passed, carries this from one statement to the
next.
-/

namespace EvoPlatform
namespace Auth

variable {τ : Type}

/-- What a tenant admin may do with invites. -/
inductive InviteOperation
  | create (dto : CreateInviteDto)
  | resend (id : String)
  | revoke (id : String)

/-- The requests under `/tenant`, and the public one that accepts an invite. -/
inductive SurfaceRequest (τ : Type)
  | members (request : TenantRequest τ)
  | invites (bearer : Option τ) (arrivesAt : Nat) (operation : InviteOperation)
  | accept (dto : AcceptInviteDto)

/-- Where such a call stands. -/
inductive SurfacePhase
  | members (phase : AdminPhase)
  | invites (phase : InvitePhase)

/-- The call of the service that a route makes. -/
def InviteOperation.call (caller : TenantCaller) :
    InviteOperation → InviteRequest
  | .create dto => .create caller dto
  | .resend id => .resend caller id
  | .revoke id => .revoke caller id

/-- The first phase of a request. -/
def SurfaceRequest.begins (keys : Keys τ) : SurfaceRequest τ → SurfacePhase
  | .members request => .members (request.begins keys)
  | .invites bearer arrivesAt operation =>
      match tenantGuards keys bearer arrivesAt with
      | .error error => .invites (.throws error)
      | .ok caller => .invites (operation.call caller).begins
  | .accept dto => .invites (InviteRequest.accept dto).begins

/-- Carry out the statement a call waits for, and go on to the next one. -/
def SurfacePhase.step (env : AdminEnv) (now : Nat) (fresh : InviteFresh)
    (db : InviteDb) : SurfacePhase → InviteDb × SurfacePhase
  | .members phase =>
      let stepped := phase.step env now fresh.toFresh db.auth
      (db.withAuth stepped.1, .members stepped.2)
  | .invites phase =>
      let stepped := phase.step env now fresh db
      (stepped.1, .invites stepped.2)

/-- The calls of the tenant surface as a program. -/
def tenantSurface (keys : Keys τ) (env : AdminEnv) :
    Program InviteDb (SurfaceRequest τ) (Nat × InviteFresh) SurfacePhase where
  begins := SurfaceRequest.begins keys
  step := fun input db phase => phase.step env input.1 input.2 db
  abandoned := fun _ => .invites (.throws .internal)

/-- The workspace for which a request acts: that of an admitted token, or that
of the invite which the presented token opens. -/
def SurfaceRequest.tenantId (keys : Keys τ) (env : AdminEnv) (db : InviteDb) :
    SurfaceRequest τ → Option String
  | .members request =>
      (tenantGuards keys request.bearer request.arrivesAt).toOption.map
        TenantCaller.tenantId
  | .invites bearer arrivesAt _ =>
      (tenantGuards keys bearer arrivesAt).toOption.map TenantCaller.tenantId
  | .accept dto =>
      (db.findByHash (env.sha256 dto.token)).map Invite.tenantId

/-! ## What stays as it is -/

/-- A stored role of an app that is enabled for a workspace. -/
def Accounts.Enabled (accounts : Accounts) (env : AdminEnv) (tenantId : String)
    (stored : StoredRole) : Prop :=
  stored ∈ env.roles.rows ∧
    (accounts.appTenants.find? (tenantId, stored.appId)).isSome

/-- A role of a user is one of an app that is enabled for a workspace. -/
def Accounts.Grants (accounts : Accounts) (env : AdminEnv) (tenantId : String)
    (role : Role) : Prop :=
  ∃ stored, accounts.Enabled env tenantId stored ∧
    role = ⟨stored.name, stored.clientId⟩

/-- A role id is one of an app that is enabled for a workspace. -/
def Accounts.Promises (accounts : Accounts) (env : AdminEnv)
    (tenantId roleId : String) : Prop :=
  ∃ stored, accounts.Enabled env tenantId stored ∧ roleId = stored.id

/-- Only members of a workspace are created, changed or deleted, no platform
admin among them, and whoever has other roles than before has roles of enabled
apps. -/
structure UsersConfined (env : AdminEnv) (tenantId : String)
    (before after : Accounts) : Prop where
  appTenants : after.appTenants = before.appTenants
  others : ∀ user, user.tenantId ≠ some tenantId ∨ user.isPlatformAdmin = true →
    (user ∈ after.users.rows ↔ user ∈ before.users.rows)
  granted : ∀ user ∈ after.users.rows,
    (∃ old ∈ before.users.rows, old.id = user.id ∧ old.roles = user.roles) ∨
      ∀ role ∈ user.roles, before.Grants env tenantId role

/-- Only invites of a workspace are created, changed or deleted, and whichever
has other roles than before has roles of enabled apps. -/
structure InvitesConfined (env : AdminEnv) (tenantId : String)
    (before after : InviteDb) : Prop where
  others : ∀ invite, invite.tenantId ≠ tenantId →
    (invite ∈ after.invites.rows ↔ invite ∈ before.invites.rows)
  promised : ∀ invite ∈ after.invites.rows,
    (∃ old ∈ before.invites.rows,
      old.id = invite.id ∧ old.roleIds = invite.roleIds) ∨
      ∀ roleId ∈ invite.roleIds,
        before.auth.accounts.Promises env tenantId roleId

/-- What a call may do to the database. -/
structure Confined (env : AdminEnv) (tenantId : String)
    (before after : InviteDb) : Prop where
  users : UsersConfined env tenantId before.auth.accounts after.auth.accounts
  invites : InvitesConfined env tenantId before after

section Confined

variable {env : AdminEnv} {tenantId : String}

theorem Accounts.Enabled.congr
    {accounts after : Accounts}
    {stored : StoredRole}
    (enabled : after.Enabled env tenantId stored)
    (same : after.appTenants = accounts.appTenants) :
    accounts.Enabled env tenantId stored := by
  obtain ⟨isStored, isEnabled⟩ := enabled
  rw [same] at isEnabled
  exact ⟨isStored, isEnabled⟩

theorem UsersConfined.refl (accounts : Accounts) :
    UsersConfined env tenantId accounts accounts where
  appTenants := rfl
  others := fun _ _ => Iff.rfl
  granted := fun user present => Or.inl ⟨user, present, rfl, rfl⟩

theorem InvitesConfined.of_eq
    {before after : InviteDb}
    (same : after.invites = before.invites) :
    InvitesConfined env tenantId before after := by
  refine ⟨fun invite _ => by rw [same], ?_⟩
  intro invite present
  rw [same] at present
  exact Or.inl ⟨invite, present, rfl, rfl⟩

theorem Confined.refl (db : InviteDb) : Confined env tenantId db db :=
  ⟨.refl db.auth.accounts, .of_eq rfl⟩

theorem UsersConfined.trans
    {before middle after : Accounts}
    (first : UsersConfined env tenantId before middle)
    (second : UsersConfined env tenantId middle after) :
    UsersConfined env tenantId before after := by
  refine ⟨second.appTenants.trans first.appTenants, ?_, ?_⟩
  · intro user outside
    exact (second.others user outside).trans (first.others user outside)
  · intro user present
    rcases second.granted user present with
      ⟨old, oldPresent, sameId, sameRoles⟩ | grants
    · rw [← sameId, ← sameRoles]
      exact first.granted old oldPresent
    · apply Or.inr
      intro role isRole
      obtain ⟨stored, enabled, isStored⟩ := grants role isRole
      exact ⟨stored, enabled.congr first.appTenants, isStored⟩

theorem Confined.trans
    {before middle after : InviteDb}
    (first : Confined env tenantId before middle)
    (second : Confined env tenantId middle after) :
    Confined env tenantId before after := by
  refine ⟨first.users.trans second.users, ?_, ?_⟩
  · intro invite outside
    exact (second.invites.others invite outside).trans
      (first.invites.others invite outside)
  · intro invite present
    rcases second.invites.promised invite present with
      ⟨old, oldPresent, sameId, sameRoles⟩ | promises
    · rw [← sameId, ← sameRoles]
      exact first.invites.promised old oldPresent
    · apply Or.inr
      intro roleId isPromised
      obtain ⟨stored, enabled, isStored⟩ := promises roleId isPromised
      exact ⟨stored, enabled.congr first.users.appTenants, isStored⟩

/-! ## Statements on users -/

variable {accounts after : Accounts}

/-- A new member is created. -/
theorem usersConfined_of_created
    {user : User}
    (created : accounts.createUser user = some after)
    (ofTenant : user.tenantId = some tenantId)
    (notAdmin : user.isPlatformAdmin = false)
    (grants : ∀ role ∈ user.roles, accounts.Grants env tenantId role) :
    UsersConfined env tenantId accounts after := by
  obtain ⟨isNew, sameAppTenants, found⟩ := Accounts.users_of_createUser created
  refine ⟨sameAppTenants, ?_, ?_⟩
  · intro other outside
    rw [Table.mem_iff_find?, Table.mem_iff_find?, found]
    split
    · rename_i sameId
      rw [sameId, isNew]
      constructor
      · intro isOther
        obtain rfl := Option.some.inj isOther
        simp [ofTenant, notAdmin] at outside
      · intro absent
        contradiction
    · rfl
  · intro other present
    rw [Table.mem_iff_find?, found] at present
    split at present
    · obtain rfl := Option.some.inj present
      exact Or.inr grants
    · exact Or.inl ⟨other, Table.mem_of_find? _ present, rfl, rfl⟩

/-- A member is changed. -/
theorem usersConfined_of_updated
    {scope : MemberScope}
    {change : User → User}
    (updated : accounts.updateUser scope.id change = some after)
    (member : accounts.IsMember scope)
    (keeps : ∀ user, (change user).id = user.id ∧
      (change user).tenantId = user.tenantId ∧
      (change user).isPlatformAdmin = user.isPlatformAdmin)
    (grants : ∀ user, (change user).roles = user.roles ∨
      ∀ role ∈ (change user).roles,
        accounts.Grants env scope.tenantId role) :
    UsersConfined env scope.tenantId accounts after := by
  obtain ⟨stored, isStored, ofTenant, notAdmin⟩ := member
  obtain ⟨keepsId, keepsTenant, keepsAdmin⟩ := keeps stored
  have storedId : stored.id = scope.id :=
    accounts.users.key_of_find? isStored
  obtain ⟨_, _, found⟩ :=
    Accounts.users_of_updateUser (fun user => (keeps user).1) updated
  have sameAppTenants := Accounts.appTenants_of_updateUser updated
  refine ⟨sameAppTenants, ?_, ?_⟩
  · intro other outside
    rw [Table.mem_iff_find?, Table.mem_iff_find?, found]
    split
    · rename_i sameId
      rw [sameId, isStored, Option.map_some]
      constructor
      · intro isOther
        obtain rfl := Option.some.inj isOther
        simp [keepsTenant, keepsAdmin, ofTenant, notAdmin] at outside
      · intro isOther
        obtain rfl := Option.some.inj isOther
        simp [ofTenant, notAdmin] at outside
    · rfl
  · intro other present
    rw [Table.mem_iff_find?, found] at present
    split at present
    · rw [isStored, Option.map_some] at present
      obtain rfl := Option.some.inj present
      rcases grants stored with same | enabled
      · exact Or.inl ⟨stored, accounts.users.mem_of_find? isStored,
          keepsId.symm, same.symm⟩
      · exact Or.inr enabled
    · exact Or.inl ⟨other, Table.mem_of_find? _ present, rfl, rfl⟩

end Confined

/-! ## Calls on members -/

/-- The workspace for which a call on members acts, if it has not ended. -/
def AdminPhase.ofTenant (tenantId : String) : AdminPhase → Bool
  | .findAddress ofCall _ _ | .createMember ofCall _ _ => ofCall = tenantId
  | .findMember _ scope | .findRoles scope _ | .findEnabled scope _
  | .writeMember _ scope => scope.tenantId = tenantId
  | .recordCreated .. | .recordMember .. | .getMember .. | .done _ => true
  | _ => false

/-- A call acts for a workspace, has passed `getMember` for one of its members,
and has checked the roles that it is to write. -/
structure AdminPhase.Within (env : AdminEnv) (tenantId : String)
    (accounts : Accounts) (phase : AdminPhase) : Prop where
  ofTenant : phase.ofTenant tenantId = true
  isMember : ∀ scope ∈ phase.checked, accounts.IsMember scope
  known : ∀ scope roles, phase = .findEnabled scope roles →
    ∀ role ∈ roles, role ∈ env.roles.rows
  enabled : ∀ roles scope, phase = .writeMember (.setRoles roles) scope →
    ∀ role ∈ roles, accounts.Enabled env tenantId role

section Members

variable {env : AdminEnv} {tenantId : String} {now : Nat} {fresh : Fresh}
  {db after : AuthDb} {phase next : AdminPhase}

/-- A call that has passed no `getMember` has nothing to write. -/
theorem AdminPhase.within_of_unchecked
    {accounts : Accounts}
    (ofTenant : phase.ofTenant tenantId = true)
    (unchecked : phase.checked = none) :
    phase.Within env tenantId accounts := by
  refine ⟨ofTenant, ?_, ?_, ?_⟩
  · rw [unchecked]
    intro scope absent
    contradiction
  · rintro scope roles rfl
    contradiction
  · rintro roles scope rfl
    contradiction

theorem AdminPhase.within_of_harmless
    {accounts : Accounts}
    (harmless : phase.harmless = true) :
    phase.Within env tenantId accounts := by
  apply within_of_unchecked _ (checked_of_harmless harmless)
  cases phase <;> first | rfl | contradiction

/-- Only `setRoles` writes roles, those it has checked. -/
theorem MemberWrite.change_grants
    {accounts : Accounts}
    {scope : MemberScope}
    (write : MemberWrite)
    (enabled : ∀ roles, write = .setRoles roles →
      ∀ role ∈ roles, accounts.Enabled env scope.tenantId role)
    (user : User) :
    (write.change now user).roles = user.roles ∨
      ∀ role ∈ (write.change now user).roles,
        accounts.Grants env scope.tenantId role := by
  cases write with
  | setRoles roles =>
      apply Or.inr
      intro role isRole
      obtain ⟨stored, isStored, rfl⟩ := List.mem_map.mp isRole
      exact ⟨stored, enabled roles rfl stored isStored, rfl⟩
  | _ => exact Or.inl rfl

/-- A statement of a call on members is confined to its workspace. -/
theorem AdminPhase.MemberMoves.usersConfined
    (moves : MemberMoves env now fresh db phase after next)
    (within : phase.Within env tenantId db.accounts) :
    UsersConfined env tenantId db.accounts after.accounts := by
  cases moves with
  | quiet _ same =>
      rw [same]
      exact .refl db.accounts
  | created ofCall actorId dto created _ =>
      have isTenant : ofCall = tenantId := by
        simpa [AdminPhase.ofTenant] using within.ofTenant
      refine usersConfined_of_created created (congrArg some isTenant) rfl ?_
      intro role absent
      contradiction
  | wrote write scope updated _ =>
      have isTenant : scope.tenantId = tenantId := by
        simpa [AdminPhase.ofTenant] using within.ofTenant
      subst isTenant
      refine usersConfined_of_updated updated (within.isMember scope rfl) ?_ ?_
      · intro user
        obtain ⟨sameId, sameTenant, _, sameAdmin⟩ := write.change_keeps now user
        exact ⟨sameId, sameTenant, sameAdmin⟩
      · apply write.change_grants
        rintro roles rfl
        exact within.enabled roles scope rfl
  | _ => exact .refl db.accounts

/-- A call on members goes on within its workspace. -/
theorem AdminPhase.MemberMoves.within
    (moves : MemberMoves env now fresh db phase after next)
    (within : phase.Within env tenantId db.accounts) :
    next.Within env tenantId after.accounts := by
  have isMember := moves.isMember within.isMember
  cases moves with
  | quiet harmless _ => exact within_of_harmless harmless
  | created _ _ _ _ harmless => exact within_of_harmless harmless
  | wrote _ _ _ harmless => exact within_of_harmless harmless
  | unheld ofCall actorId dto =>
      exact within_of_unchecked within.ofTenant rfl
  | @found operation scope existing _ =>
      rcases operation.goesOn_cases env.toAuthEnv scope existing with
        ⟨error, goesOn⟩ | ⟨_, unique, _, goesOn⟩ | ⟨write, goesOn, comesTo⟩
      · rw [goesOn]
        exact within_of_harmless rfl
      · rw [goesOn] at isMember ⊢
        exact ⟨within.ofTenant, isMember,
          fun scope roles isPhase => by contradiction,
          fun roles scope isPhase => by contradiction⟩
      · rw [goesOn] at isMember ⊢
        refine ⟨within.ofTenant, isMember,
          fun scope roles isPhase => by contradiction, ?_⟩
        rintro roles other ⟨⟩ role present
        rw [show roles = [] from comesTo] at present
        contradiction
  | foundRoles scope unique known =>
      refine ⟨within.ofTenant, isMember, ?_,
        fun roles scope isPhase => by contradiction⟩
      rintro other roles ⟨⟩
      exact known
  | @enabled scope checked allEnabled =>
      refine ⟨within.ofTenant, isMember,
        fun scope roles isPhase => by contradiction, ?_⟩
      rintro roles other ⟨⟩ role present
      have isTenant : scope.tenantId = tenantId := by
        simpa [AdminPhase.ofTenant] using within.ofTenant
      subst isTenant
      exact ⟨within.known scope checked rfl role present,
        allEnabled role present⟩

end Members

/-! ## Calls on invites -/

/-- The invite of an id is one of a workspace, if there is one. -/
def InviteDb.OfTenant (db : InviteDb) (tenantId id : String) : Prop :=
  ∀ stored ∈ db.invites.find? id, stored.tenantId = tenantId

/-- A call acts for a workspace, has found one of its invites, and has checked
the roles that it is to write. -/
def InvitePhase.Within (env : AdminEnv) (tenantId : String) (db : InviteDb) :
    InvitePhase → Prop
  | .findMember caller _ | .findResent caller _ | .findRevoked caller _ =>
      caller.tenantId = tenantId
  | .findRoles draft _ => draft.caller.tenantId = tenantId
  | .findEnabled draft unique roles => draft.caller.tenantId = tenantId ∧
      (∀ roleId ∈ unique, ∃ role ∈ roles, roleId = role.id) ∧
      ∀ role ∈ roles, role ∈ env.roles.rows
  | .deleteOpen draft roleIds | .createInvite draft roleIds =>
      draft.caller.tenantId = tenantId ∧ ∀ roleId ∈ roleIds,
        db.auth.accounts.Promises env tenantId roleId
  | .rotateToken _ invite | .deleteInvite _ invite =>
      db.OfTenant tenantId invite.id
  | .findByToken dto => ∀ invite ∈ db.findByHash (env.sha256 dto.token),
      invite.tenantId = tenantId
  | .findAccount acceptance | .findGranted acceptance =>
      acceptance.invite.tenantId = tenantId ∧
        db.OfTenant tenantId acceptance.invite.id
  | .findStillEnabled acceptance roles =>
      acceptance.invite.tenantId = tenantId ∧
        db.OfTenant tenantId acceptance.invite.id ∧
        ∀ role ∈ roles, role ∈ env.roles.rows
  | .hashPassword acceptance roles | .acceptTransaction acceptance roles _ =>
      acceptance.invite.tenantId = tenantId ∧
        db.OfTenant tenantId acceptance.invite.id ∧
        ∀ role ∈ roles, db.auth.accounts.Enabled env tenantId role
  | .sendInvite .. | .recordInvite .. | .recordAccepted .. | .done _ => True

section Invites

variable {env : AdminEnv} {tenantId : String} {now : Nat} {fresh : InviteFresh}
  {db after : InviteDb} {phase : InvitePhase}

/-- Rows other than one of the workspace stay. -/
theorem invitesConfined_of_written
    {id : String}
    {stored written : Invite}
    (ofTenant : db.OfTenant tenantId id)
    (found : db.invites.find? id = some stored)
    (keeps : written.id = stored.id ∧ written.tenantId = stored.tenantId ∧
      written.roleIds = stored.roleIds)
    (rows : ∀ row, row ∈ after.invites.rows ↔
      row = written ∨ (row ∈ db.invites.rows ∧ row.id ≠ id)) :
    InvitesConfined env tenantId db after := by
  obtain ⟨keepsId, keepsTenant, keepsRoles⟩ := keeps
  have isTenant := ofTenant stored found
  constructor
  · intro invite outside
    rw [rows]
    constructor
    · rintro (rfl | ⟨present, _⟩)
      · exact absurd (keepsTenant.trans isTenant) outside
      · exact present
    · intro present
      refine Or.inr ⟨present, ?_⟩
      rintro rfl
      rw [db.invites.find?_of_mem present] at found
      exact outside (Option.some.inj found ▸ isTenant)
  · intro invite present
    rcases (rows invite).mp present with rfl | ⟨old, _⟩
    · exact Or.inl ⟨stored, db.invites.mem_of_find? found, keepsId.symm,
        keepsRoles.symm⟩
    · exact Or.inl ⟨invite, old, rfl, rfl⟩

/-- Rows of the workspace are deleted. -/
theorem invitesConfined_of_erased
    (subset : ∀ invite ∈ after.invites.rows, invite ∈ db.invites.rows)
    (spared : ∀ invite ∈ db.invites.rows, invite.tenantId ≠ tenantId →
      invite ∈ after.invites.rows) :
    InvitesConfined env tenantId db after where
  others := fun invite outside =>
    ⟨subset invite, fun present => spared invite present outside⟩
  promised := fun invite present =>
    Or.inl ⟨invite, subset invite present, rfl, rfl⟩

/-- A statement of a call on invites is confined to its workspace. -/
theorem InvitePhase.Effect.confined
    (effect : Effect env now fresh db phase after)
    (within : phase.Within env tenantId db) :
    Confined env tenantId db after := by
  have sameUsers : ∀ {other : InviteDb}, other.auth = db.auth →
      UsersConfined env tenantId db.auth.accounts other.auth.accounts := by
    intro other same
    rw [same]
    exact .refl db.auth.accounts
  cases effect with
  | none sameInvites sameAccounts =>
      refine ⟨?_, .of_eq sameInvites⟩
      rw [sameAccounts]
      exact .refl db.auth.accounts
  | deletedOpen draft roleIds =>
      obtain ⟨isTenant, _⟩ := within
      refine ⟨sameUsers rfl, invitesConfined_of_erased ?_ ?_⟩
      · intro invite present
        exact (InviteDb.mem_eraseInvites_iff.mp present).1
      · intro invite present outside
        refine InviteDb.mem_eraseInvites_iff.mpr ⟨present, ?_⟩
        simp [Invite.isOpenFor, isTenant, outside]
  | created draft roleIds created =>
      obtain ⟨isTenant, promises⟩ := within
      obtain ⟨sameAuth, rows⟩ := InviteDb.of_createInvite created
      refine ⟨sameUsers sameAuth, ?_, ?_⟩
      · intro invite outside
        rw [rows]
        refine or_iff_right ?_
        rintro rfl
        exact outside isTenant
      · intro invite present
        rcases (rows invite).mp present with rfl | old
        · exact Or.inr promises
        · exact Or.inl ⟨invite, old, rfl, rfl⟩
  | rotated caller invite updated =>
      obtain ⟨sameAuth, stored, found, rows⟩ :=
        InviteDb.of_updateInvite updated fun _ => rfl
      refine ⟨sameUsers sameAuth,
        invitesConfined_of_written within found ?_ rows⟩
      exact ⟨rfl, rfl, rfl⟩
  | deleted caller invite deleted =>
      obtain ⟨sameAuth, _, rows⟩ := InviteDb.of_deleteInvite deleted
      refine ⟨sameUsers sameAuth, invitesConfined_of_erased ?_ ?_⟩
      · intro other present
        exact ((rows other).mp present).1
      · intro other present outside
        refine (rows other).mpr ⟨present, ?_⟩
        intro sameId
        have found := db.invites.find?_of_mem present
        rw [sameId] at found
        exact outside (within other found)
  | @accepted acceptance roles passwordHash accounts accepted created updated =>
      obtain ⟨isTenant, ofTenant, enabled⟩ := within
      obtain ⟨_, stored, found, rows⟩ :=
        InviteDb.of_updateInvite updated fun _ => rfl
      have written : InvitesConfined env tenantId db accepted := by
        refine invitesConfined_of_written ofTenant found ?_ rows
        exact ⟨rfl, rfl, rfl⟩
      refine ⟨usersConfined_of_created created (congrArg some isTenant) rfl ?_,
        written.others, written.promised⟩
      intro role isRole
      obtain ⟨granted, isGranted, rfl⟩ := List.mem_map.mp isRole
      exact ⟨granted, enabled granted isGranted, rfl⟩

/-- As many known roles as ids have been found, so every id has its role. -/
theorem exists_role_of_length
    {unique : List String}
    {roleId : String}
    (sameLength : (env.roles.rows.filter fun role =>
      unique.contains role.id).length = unique.length)
    (present : roleId ∈ unique) :
    ∃ role ∈ env.roles.rows.filter fun role => unique.contains role.id,
      roleId = role.id := by
  let found := (env.roles.rows.filter fun role => unique.contains role.id).map
    StoredRole.id
  have nodup : found.Nodup :=
    env.roles.keysNodup.sublist (List.filter_sublist.map StoredRole.id)
  have contained : found ⊆ unique := by
    intro id isFound
    obtain ⟨role, isRole, rfl⟩ := List.mem_map.mp isFound
    simpa using (List.mem_filter.mp isRole).2
  have enough : unique.length ≤ found.length := by
    rw [List.length_map, sameLength]
  have permuted := (nodup.subperm contained).perm_of_length_le enough
  obtain ⟨role, isRole, sameId⟩ :=
    List.mem_map.mp (permuted.mem_iff.mpr present)
  exact ⟨role, isRole, sameId.symm⟩

theorem ofTenant_of_findInvite
    {invite : Invite} {ofCall id : String}
    (found : db.findInvite ofCall id = some invite)
    (isTenant : ofCall = tenantId) :
    db.OfTenant tenantId invite.id := by
  simp only [InviteDb.findInvite, Option.filter_eq_some_iff,
    decide_eq_true_eq] at found
  obtain ⟨found, ofTenant⟩ := found
  have isId : invite.id = id := db.invites.key_of_find? found
  intro stored isStored
  rw [isId, found] at isStored
  obtain rfl := Option.some.inj isStored
  exact ofTenant.trans isTenant

/-- A call on invites goes on within its workspace. -/
theorem InvitePhase.within_step
    (phase : InvitePhase)
    (within : phase.Within env tenantId db) :
    (phase.step env now fresh db).2.Within env tenantId
      (phase.step env now fresh db).1 := by
  cases phase with
  | findMember caller dto =>
      simp only [step]
      split
      · trivial
      · split
        · rename_i none
          refine ⟨within, ?_⟩
          intro roleId present
          rw [List.length_eq_zero_iff.mp none] at present
          contradiction
        · exact within
  | findRoles draft unique =>
      simp only [step]
      split
      · trivial
      · rename_i allFound
        refine ⟨within, ?_, ?_⟩
        · intro roleId present
          exact exists_role_of_length (not_not.mp allFound) present
        · intro role present
          exact (List.mem_filter.mp present).1
  | findEnabled draft unique roles =>
      obtain ⟨isTenant, allFound, known⟩ := within
      simp only [step]
      split
      · trivial
      · rename_i allEnabled
        simp only [List.any_eq_true, not_exists, not_and,
          Option.isNone_iff_eq_none] at allEnabled
        refine ⟨isTenant, ?_⟩
        intro roleId present
        obtain ⟨role, isRole, isId⟩ := allFound roleId present
        rw [isTenant] at allEnabled
        exact ⟨role, ⟨known role isRole,
          Option.isSome_iff_ne_none.mpr (allEnabled role isRole)⟩, isId⟩
  | deleteOpen draft roleIds => exact within
  | createInvite draft roleIds =>
      simp only [step]
      split <;> trivial
  | findResent caller id =>
      simp only [step]
      split
      · trivial
      · rename_i invite found
        unfold Invite.unlessAccepted
        split
        · trivial
        · exact ofTenant_of_findInvite found within
  | rotateToken caller invite =>
      simp only [step]
      split
      · trivial
      · split <;> trivial
  | findRevoked caller id =>
      simp only [step]
      split
      · trivial
      · rename_i invite found
        unfold Invite.unlessAccepted
        split
        · trivial
        · exact ofTenant_of_findInvite found within
  | deleteInvite caller invite =>
      simp only [step]
      split <;> trivial
  | findByToken dto =>
      simp only [step]
      split
      · trivial
      · rename_i invite found
        unfold AcceptInviteDto.goesOn
        split
        · trivial
        · split
          · trivial
          · split
            · trivial
            · have isTenant := within invite found
              refine ⟨isTenant, ?_⟩
              intro stored isStored
              rw [db.invites.find?_of_mem (Table.mem_of_findBy found).1]
                at isStored
              exact Option.some.inj isStored ▸ isTenant
  | findAccount acceptance =>
      simp only [step]
      split
      · trivial
      · split
        · exact ⟨within.1, within.2, fun role absent => by contradiction⟩
        · exact within
  | findGranted acceptance =>
      exact ⟨within.1, within.2,
        fun role present => (List.mem_filter.mp present).1⟩
  | findStillEnabled acceptance roles =>
      obtain ⟨isTenant, ofTenant, known⟩ := within
      refine ⟨isTenant, ofTenant, ?_⟩
      intro role present
      obtain ⟨isRole, isEnabled⟩ := List.mem_filter.mp present
      rw [isTenant] at isEnabled
      exact ⟨known role isRole, isEnabled⟩
  | hashPassword acceptance roles => exact within
  | acceptTransaction acceptance roles passwordHash =>
      simp only [step]
      split
      · trivial
      · split <;> trivial
  | _ => trivial

end Invites

/-! ## Calls of the tenant surface -/

/-- A call acts for a workspace. -/
def SurfacePhase.Within (env : AdminEnv) (tenantId : String) (db : InviteDb) :
    SurfacePhase → Prop
  | .members phase => phase.Within env tenantId db.auth.accounts
  | .invites phase => phase.Within env tenantId db

section Surface

variable {keys : Keys τ} {env : AdminEnv} {tenantId : String}

/-- The calls on members act for the workspace of their caller. -/
theorem AdminPhase.ofMembers_of_ofTenant
    {phase : AdminPhase}
    (ofTenant : phase.ofTenant tenantId = true) :
    phase.ofMembers = true := by
  cases phase <;> first | rfl | contradiction

/-- A statement is confined to the workspace for which its call acts. -/
theorem confined_step
    (now : Nat)
    (fresh : InviteFresh)
    (db : InviteDb)
    (phase : SurfacePhase)
    (within : phase.Within env tenantId db) :
    Confined env tenantId db (phase.step env now fresh db).1 ∧
      (phase.step env now fresh db).2.Within env tenantId
        (phase.step env now fresh db).1 := by
  cases phase with
  | members phase =>
      have moves := memberMoves_step env now fresh.toFresh db.auth
        (AdminPhase.ofMembers_of_ofTenant within.ofTenant)
      exact ⟨⟨moves.usersConfined within, .of_eq rfl⟩, moves.within within⟩
  | invites phase =>
      exact ⟨(effect_step env now fresh db phase).confined within,
        phase.within_step within⟩

/-- A request begins within the workspace for which it acts. -/
theorem within_begins
    {db : InviteDb}
    {request : SurfaceRequest τ}
    (actsFor : ∀ other ∈ request.tenantId keys env db, other = tenantId) :
    (request.begins keys).Within env tenantId db := by
  cases request with
  | members request =>
      simp only [SurfaceRequest.tenantId] at actsFor
      simp only [SurfaceRequest.begins, TenantRequest.begins]
      cases admitted : tenantGuards keys request.bearer request.arrivesAt with
      | error error => exact AdminPhase.within_of_harmless rfl
      | ok caller =>
          rw [admitted] at actsFor
          have isTenant := actsFor caller.tenantId rfl
          cases asked : request.request with
          | create dto =>
              exact AdminPhase.within_of_unchecked (decide_eq_true isTenant) rfl
          | member operation id =>
              exact AdminPhase.within_of_unchecked (decide_eq_true isTenant) rfl
  | invites bearer arrivesAt operation =>
      simp only [SurfaceRequest.tenantId] at actsFor
      simp only [SurfaceRequest.begins]
      cases admitted : tenantGuards keys bearer arrivesAt with
      | error error => trivial
      | ok caller =>
          rw [admitted] at actsFor
          have isTenant := actsFor caller.tenantId rfl
          cases operation <;> exact isTenant
  | accept dto =>
      intro invite found
      exact actsFor invite.tenantId (Option.mem_map_of_mem _ found)

/-- From every database, every request of the tenant surface, with the database
to itself, is confined to the workspace for which it acts, however many of its
statements are carried out. -/
theorem tenant_confined
    (keys : Keys τ)
    (env : AdminEnv)
    (db : InviteDb)
    (request : SurfaceRequest τ)
    (tenantId : String)
    (actsFor : ∀ other ∈ request.tenantId keys env db, other = tenantId)
    (inputs : List (Nat × InviteFresh)) :
    Confined env tenantId db
      ((tenantSurface keys env).alone db (request.begins keys) inputs).1 := by
  apply Program.alone_related Confined.refl _ _ inputs (within_begins actsFor)
  · intro before middle after first second
    exact first.trans second
  · intro input db phase within
    exact confined_step input.1 input.2 db phase within

/-- A tenant admin invites an address to the workspace `t1`. -/
theorem tenant_confined_invite :
    let request : SurfaceRequest Payload :=
      .invites (some (officeToken "u1")) 10 (.create inviteDto)
    let after := ((tenantSurface plainKeys demoEnv).alone uninvited
      (request.begins plainKeys)
      (List.replicate 5 (10000, ⟨⟨"i1", "", ""⟩, "i1"⟩))).1
    after.invites.rows.map Invite.tenantId = ["t1"] ∧
      Confined demoEnv "t1" uninvited after := by
  refine ⟨by decide +kernel, ?_⟩
  exact tenant_confined plainKeys demoEnv uninvited
    (.invites (some (officeToken "u1")) 10 (.create inviteDto)) "t1"
    (by decide +kernel) _

end Surface

end Auth
end EvoPlatform
