import EvoPlatform.Auth.Calls
import EvoPlatform.Foundation.Pool

/-!
# Administrative calls

The operations of the console on users and tenants, and those of a tenant admin
on the members of a workspace, one database statement at a time.
-/

namespace EvoPlatform
namespace Auth

/-- A row of the `roles` table, with the client id of its app. -/
structure StoredRole where
  id : String
  appId : String
  name : String
  clientId : String
  deriving DecidableEq

/-- The surroundings of the administrative calls, none of which writes the
`roles` table. -/
structure AdminEnv extends AuthEnv where
  roles : Table StoredRole.id

structure CreateMemberDto where
  email : String
  password : String
  firstName : Option String
  lastName : Option String
  phone : Option String
  isTenantAdmin : Option Bool

structure UpdateMemberDto where
  firstName : Option String
  lastName : Option String
  phone : Option String
  isTenantAdmin : Option Bool

/-- The tenant and the user of a verified token, and the member they are about
to touch. -/
structure MemberScope where
  tenantId : String
  actorId : String
  id : String

/-- What a tenant admin may do to a member. -/
inductive MemberOperation
  | update (dto : UpdateMemberDto)
  | deactivate
  | restore
  | setRoles (roleIds : List String)

/-- What the console may do to a user by id, `update` aside. -/
inductive UserOperation
  | remove
  | restore
  | purge

/-- What the console may do to a tenant by id. -/
inductive TenantOperation
  | remove
  | purge

/-- The calls. -/
inductive AdminRequest
  | updateUser (id : String) (dto : UpdateUserDto)
  | user (operation : UserOperation) (id : String)
  | tenant (operation : TenantOperation) (id : String)
  | createMember (tenantId actorId : String) (dto : CreateMemberDto)
  | member (operation : MemberOperation) (scope : MemberScope)

/-- What a call returns. -/
inductive AdminAnswer
  | ok
  | user (user : User)
  | tenant (tenant : Tenant)
  | purged (users auditEvents : Nat)

/-- What a member operation is about to write, its checks passed. -/
inductive MemberWrite
  | update (dto : UpdateMemberDto) (name : Option (Option String))
  | deactivate
  | restore
  | setRoles (roles : List StoredRole)

/-! ## The database -/

namespace Accounts

variable (accounts : Accounts)

/-- `tenant.update` by id, which throws when there is no such row. -/
def updateTenant (id : String) (change : Tenant → Tenant) : Option Accounts :=
  (accounts.tenants.find? id).map fun tenant =>
    { accounts with
      tenants := accounts.tenants.put (change tenant)
      references := by
        intro enablement present
        obtain ⟨ofTenant, ofApp⟩ := accounts.references enablement present
        refine ⟨?_, ofApp⟩
        rw [Table.find?_put]
        split
        · rfl
        · exact ofTenant }

/-- `user.create`, which throws when the id or the address is taken, or the
tenant is missing. -/
def createUser (user : User) : Option Accounts :=
  if (accounts.users.find? user.id).isSome ||
      user.tenantId.any fun id => (accounts.tenants.find? id).isNone then
    none
  else accounts.putUser user

variable {accounts} {after : Accounts}

/-- A created user has a new id, and is added to the others. -/
theorem users_of_createUser
    {user : User}
    (created : accounts.createUser user = some after) :
    accounts.users.find? user.id = none ∧
      after.appTenants = accounts.appTenants ∧
      ∀ other, after.users.find? other =
        if other = user.id then some user else accounts.users.find? other := by
  unfold createUser at created
  split at created
  · contradiction
  · rename_i free
    simp only [Bool.or_eq_true, not_or, Bool.not_eq_true,
      Option.isSome_eq_false_iff, Option.isNone_iff_eq_none] at free
    refine ⟨free.1, appTenants_of_putUser created, ?_⟩
    intro other
    rw [users_of_putUser created, Table.find?_put]

/-- The address of a created user was free. -/
theorem address_of_createUser
    {user other : User}
    (created : accounts.createUser user = some after)
    (present : other ∈ accounts.users.rows) :
    other.address ≠ user.address := by
  have isNew := (users_of_createUser created).1
  unfold createUser at created
  split at created
  · contradiction
  · unfold putUser at created
    split at created
    · contradiction
    · rename_i free
      intro same
      refine free ⟨other, present, ?_, rfl, same⟩
      intro sameId
      have found := accounts.users.find?_of_mem present
      simp [sameId, isNew] at found

variable (accounts)

/-- Delete users. -/
def eraseUsers (doomed : User → Bool) : Accounts :=
  { accounts with
    users := accounts.users.eraseWhere doomed
    addressUnique := accounts.addressUnique.eraseWhere doomed }

/-- Delete a tenant, its users and its rows in `app_tenants`. -/
def eraseTenant (id : String) : Accounts :=
  { accounts.eraseUsers fun user => user.tenantId = some id with
    tenants := accounts.tenants.erase id
    appTenants := accounts.appTenants.eraseWhere fun enablement =>
      enablement.tenantId = id
    subscriptionUnique := accounts.subscriptionUnique.eraseWhere _
    references := by
      intro enablement present
      obtain ⟨before, elsewhere⟩ := List.mem_filter.mp present
      obtain ⟨ofTenant, ofApp⟩ := accounts.references enablement before
      have different : enablement.tenantId ≠ id := by
        simpa using elsewhere
      refine ⟨?_, ofApp⟩
      rw [Table.find?_erase, if_neg different]
      exact ofTenant }

end Accounts

namespace AuthDb

variable (db : AuthDb)

/-- Put accounts into the database. -/
def withAccounts (accounts : Accounts) : AuthDb :=
  { db with accounts := accounts }

/-- Delete the refresh tokens of the users that are no longer there. -/
def cascade : AuthDb :=
  { db with
    tokens := db.tokens.eraseOf fun userId =>
      (db.accounts.users.find? userId).isNone }

/-- The transaction of `UsersService.purge`. -/
def purgeUser (id : String) : Option AuthDb :=
  (db.accounts.users.find? id).map fun _ =>
    ({ db with
        accounts := db.accounts.eraseUsers fun user => user.id = id
        audit := db.audit.map fun event =>
          if event.userId = some id then { event with userId := none }
          else event } : AuthDb).cascade

/-- The transaction of `TenantsService.purge`. -/
def purgeTenant (id : String) : Option AuthDb :=
  (db.accounts.tenants.find? id).map fun _ =>
    ({ db with
        accounts := db.accounts.eraseTenant id
        audit := db.audit.filter fun event =>
          event.tenantId ≠ some id } : AuthDb).cascade

end AuthDb

/-! ## Phases -/

/-- Where a call stands: the statement it sends next. -/
inductive AdminPhase
  /-- `UsersService.update`. -/
  | update (phase : Phase)
  -- UsersService.remove, restore and purge
  | findUser (operation : UserOperation) (id : String)
  | countOthers (existing : User)
  | softDelete (id : String)
  | recordDeleted (id : String) (user : User)
  | restore (id : String)
  | purge (user : User)
  | recordPurged (user : User)
  -- TenantsService.remove and purge
  | findTenant (operation : TenantOperation) (id : String)
  | softDeleteTenant (id : String)
  | recordTenantDeleted (id : String) (tenant : Tenant)
  | purgeTenant (tenant : Tenant)
  | recordTenantPurged (tenant : Tenant) (users auditEvents : Nat)
  -- TenantService.create
  | findAddress (tenantId actorId : String) (dto : CreateMemberDto)
  | createMember (tenantId actorId : String) (dto : CreateMemberDto)
  | recordCreated (tenantId actorId : String) (email : String) (member : User)
  -- TenantService.update, deactivate, restore and setRoles
  | findMember (operation : MemberOperation) (scope : MemberScope)
  | findRoles (scope : MemberScope) (unique : List String)
  | findEnabled (scope : MemberScope) (roles : List StoredRole)
  | writeMember (write : MemberWrite) (scope : MemberScope)
  | recordMember (write : MemberWrite) (scope : MemberScope) (member : User)
  | getMember (scope : MemberScope)
  /-- The call has ended. -/
  | done (outcome : Except AuthError AdminAnswer)

/-- The call throws. -/
def AdminPhase.throws (error : AuthError) : AdminPhase := .done (.error error)

/-- The first phase of a call. -/
def AdminRequest.begins : AdminRequest → AdminPhase
  | .updateUser id dto => .update (.findExisting id dto)
  | .user operation id => .findUser operation id
  | .tenant operation id => .findTenant operation id
  | .createMember tenantId actorId dto => .findAddress tenantId actorId dto
  | .member operation scope => .findMember operation scope

/-- `assertNotLastPlatformAdmin`, up to its statement. -/
def assertNotLastPlatformAdmin (existing : User) : AdminPhase :=
  if existing.isPlatformAdmin && existing.deletedAt.isNone then
    .countOthers existing
  else .softDelete existing.id

/-- Past the read of the user. -/
def UserOperation.goesOn (existing : User) : UserOperation → AdminPhase
  | .remove => assertNotLastPlatformAdmin existing
  | .restore => .restore existing.id
  | .purge =>
      if existing.deletedAt.isNone then
        .throws (.conflict
          "Purge requires the user to be soft-deleted first")
      else .purge existing

/-- Past the read of the tenant. -/
def TenantOperation.goesOn (tenant : Tenant) : TenantOperation → AdminPhase
  | .remove => .softDeleteTenant tenant.id
  | .purge =>
      if tenant.deletedAt.isNone then
        .throws (.conflict
          "Purge requires the tenant to be soft-deleted first")
      else .purgeTenant tenant

/-- The row that `TenantService.create` creates. -/
def CreateMemberDto.member (dto : CreateMemberDto) (env : AuthEnv) (now : Nat)
    (fresh : Fresh) (tenantId : String) : User where
  id := fresh.id
  tenantId := some tenantId
  email := env.toLowerCase dto.email
  name := fullName env dto.firstName dto.lastName
  firstName := dto.firstName
  lastName := dto.lastName
  phone := dto.phone
  passwordHash := env.bcryptHash dto.password fresh.salt
  isPlatformAdmin := false
  isTenantAdmin := dto.isTenantAdmin.getD false
  emailVerifiedAt := some now
  deletedAt := none
  roles := []

/-- `getMember`: a platform admin is not a member that may be touched. -/
def Accounts.getMember (accounts : Accounts) (scope : MemberScope) :
    Option User :=
  (accounts.users.find? scope.id).filter fun user =>
    user.tenantId = some scope.tenantId && !user.isPlatformAdmin

/-- Past the read of the member. -/
def MemberOperation.goesOn (env : AuthEnv) (scope : MemberScope)
    (existing : User) : MemberOperation → AdminPhase
  | .update dto =>
      if scope.id = scope.actorId && dto.isTenantAdmin = some false then
        .throws (.conflict "You cannot remove your own tenant-admin role")
      else
        let name :=
          if dto.firstName.isSome || dto.lastName.isSome then
            some (fullName env (dto.firstName <|> existing.firstName)
              (dto.lastName <|> existing.lastName))
          else none
        .writeMember (.update dto name) scope
  | .deactivate =>
      if scope.id = scope.actorId then
        .throws (.conflict "You cannot deactivate your own account")
      else .writeMember .deactivate scope
  | .restore => .writeMember .restore scope
  | .setRoles roleIds =>
      let unique := roleIds.eraseDups
      if 0 < unique.length then .findRoles scope unique
      else .writeMember (.setRoles []) scope

/-- The columns that a member operation sets. -/
def MemberWrite.change (now : Nat) (user : User) : MemberWrite → User
  | .update dto name =>
      { user with
        firstName := dto.firstName <|> user.firstName
        lastName := dto.lastName <|> user.lastName
        phone := dto.phone <|> user.phone
        name := name.getD user.name
        isTenantAdmin := dto.isTenantAdmin.getD user.isTenantAdmin }
  | .deactivate => { user with deletedAt := some now }
  | .restore => { user with deletedAt := none }
  | .setRoles roles =>
      { user with roles := roles.map fun role => ⟨role.name, role.clientId⟩ }

/-- The action under which a member operation is recorded. -/
def MemberWrite.action : MemberWrite → String
  | .update _ _ => "tenant.member_updated"
  | .deactivate => "tenant.member_deactivated"
  | .restore => "tenant.member_restored"
  | .setRoles _ => "tenant.member_roles_set"

/-- The detail with which a member operation is recorded. -/
def MemberWrite.detail (memberId : String) : MemberWrite → AuditDetail
  | .setRoles roles => .memberRoles memberId roles.length
  | _ => .member memberId

/-- Past the record of a member operation. -/
def MemberWrite.recorded (scope : MemberScope) (member : User) :
    MemberWrite → AdminPhase
  | .setRoles _ => .getMember scope
  | _ => .done (.ok (.user member))

/-- Write a user and go on with the written row. -/
def AuthDb.writeUser (db : AuthDb) (id : String) (change : User → User)
    (next : User → AdminPhase) : AuthDb × AdminPhase :=
  match db.accounts.updateUser id change with
  | none => (db, .throws .internal)
  | some accounts =>
      (db.withAccounts accounts,
        match accounts.users.find? id with
        | none => .throws .internal
        | some written => next written)

/-- Carry out the statement a call waits for, and go on to the next one. -/
def AdminPhase.step (env : AdminEnv) (now : Nat) (fresh : Fresh) (db : AuthDb) :
    AdminPhase → AuthDb × AdminPhase
  | .update phase =>
      let stepped := phase.step env.toAuthEnv now fresh db
      (stepped.1, .update stepped.2)
  | .findUser operation id =>
      (db, match db.accounts.users.find? id with
        | none => .throws (.notFound "User not found")
        | some existing => operation.goesOn existing)
  | .countOthers existing =>
      (db, if db.accounts.otherAdmins existing = 0 then
          .throws (.conflict "This is the last platform admin — promote another account before removing this one")
        else .softDelete existing.id)
  | .softDelete id =>
      db.writeUser id (fun user => { user with deletedAt := some now })
        (.recordDeleted id)
  | .recordDeleted id user =>
      (db.record ⟨"user.deleted", none, some id, none, none, .none⟩,
        .done (.ok (.user user)))
  | .restore id =>
      db.writeUser id (fun user => { user with deletedAt := none })
        fun user => .done (.ok (.user user))
  | .purge user =>
      match db.purgeUser user.id with
      | none => (db, .throws .internal)
      | some purged => (purged, .recordPurged user)
  | .recordPurged user =>
      (db.record ⟨"user.purged", user.tenantId, none, none, none, .none⟩,
        .done (.ok .ok))
  | .findTenant operation id =>
      (db, match db.accounts.tenants.find? id with
        | none => .throws (.notFound "Tenant not found")
        | some tenant => operation.goesOn tenant)
  | .softDeleteTenant id =>
      match db.accounts.updateTenant id fun tenant =>
          { tenant with deletedAt := some now } with
      | none => (db, .throws .internal)
      | some accounts =>
          (db.withAccounts accounts,
            match accounts.tenants.find? id with
            | none => .throws .internal
            | some tenant => .recordTenantDeleted id tenant)
  | .recordTenantDeleted id tenant =>
      (db.record ⟨"tenant.deleted", some id, none, none, none, .none⟩,
        .done (.ok (.tenant tenant)))
  | .purgeTenant tenant =>
      match db.purgeTenant tenant.id with
      | none => (db, .throws .internal)
      | some purged =>
          (purged, .recordTenantPurged tenant
            (db.accounts.users.rows.countP fun user =>
              user.tenantId = some tenant.id)
            (db.audit.countP fun event => event.tenantId = some tenant.id))
  | .recordTenantPurged tenant users auditEvents =>
      (db.record ⟨"tenant.purged", none, none, none, none,
        .purge tenant.slug users auditEvents⟩,
        .done (.ok (.purged users auditEvents)))
  | .findAddress tenantId actorId dto =>
      (db, match db.accounts.users.rows.find? fun user =>
          user.tenantId = some tenantId &&
            user.email = env.toLowerCase dto.email with
        | some _ =>
            .throws (.conflict "A member with that email already exists")
        | none => .createMember tenantId actorId dto)
  | .createMember tenantId actorId dto =>
      let member := dto.member env.toAuthEnv now fresh tenantId
      match db.accounts.createUser member with
      | none => (db, .throws .internal)
      | some accounts =>
          (db.withAccounts accounts,
            .recordCreated tenantId actorId member.email member)
  | .recordCreated tenantId actorId email member =>
      (db.record ⟨"tenant.member_created", some tenantId, some actorId, none,
        none, .newMember member.id email⟩, .done (.ok (.user member)))
  | .findMember operation scope =>
      (db, match db.accounts.getMember scope with
        | none => .throws (.notFound "Member not found")
        | some existing => operation.goesOn env.toAuthEnv scope existing)
  | .findRoles scope unique =>
      let roles := env.roles.rows.filter fun role => unique.contains role.id
      (db, if roles.length ≠ unique.length then
          .throws (.notFound "Role not found")
        else .findEnabled scope roles)
  | .findEnabled scope roles =>
      (db, if roles.any fun role =>
            (db.accounts.appTenants.find? (scope.tenantId, role.appId)).isNone
          then
          .throws (.forbidden
            "Role belongs to an app not enabled for this workspace")
        else .writeMember (.setRoles roles) scope)
  | .writeMember write scope =>
      db.writeUser scope.id (fun user => write.change now user)
        (.recordMember write scope)
  | .recordMember write scope member =>
      (db.record ⟨write.action, some scope.tenantId, some scope.actorId, none,
        none, write.detail scope.id⟩, write.recorded scope member)
  | .getMember scope =>
      (db, match db.accounts.getMember scope with
        | none => .throws (.notFound "Member not found")
        | some member => .done (.ok (.user member)))
  | .done outcome => (db, .done outcome)

/-- The administrative calls as a program. -/
def administration (env : AdminEnv) :
    Program AuthDb AdminRequest (Nat × Fresh) AdminPhase where
  begins := AdminRequest.begins
  step := fun input db phase => phase.step env input.1 input.2 db
  abandoned := fun _ => .throws .internal

end Auth
end EvoPlatform
