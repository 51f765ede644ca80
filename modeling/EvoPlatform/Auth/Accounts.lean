import EvoPlatform.Foundation.Table

/-!
# Accounts and the gate

The tables that decide who may hold a session, and the checks that every way to
a session shares.  Times are in milliseconds.
-/

namespace EvoPlatform
namespace Auth

/-- The status of a tenant. -/
inductive TenantStatus
  | active
  | suspended
  | pastDue
  deriving DecidableEq

/-- On what terms a tenant may use an app. -/
inductive AppTenantStatus
  | trial
  | active
  | pastDue
  | suspended
  deriving DecidableEq

/-- A row of the `tenants` table. -/
structure Tenant where
  id : String
  slug : String
  name : String
  status : TenantStatus
  graceUntil : Option Nat
  deletedAt : Option Nat
  deriving DecidableEq

/-- A row of the `apps` table. -/
structure App where
  id : String
  clientId : String
  deletedAt : Option Nat
  deriving DecidableEq

/-- A row of the `app_tenants` table. -/
structure AppTenant where
  tenantId : String
  appId : String
  status : AppTenantStatus
  plan : String
  trialEndsAt : Option Nat
  graceUntil : Option Nat
  /-- The Stripe subscription that owns the status. -/
  stripeSubscriptionId : Option String
  deriving DecidableEq

/-- The primary key of `app_tenants`. -/
def AppTenant.key (enablement : AppTenant) : String × String :=
  (enablement.tenantId, enablement.appId)

/-- A role of a user, with the client id of its app. -/
structure Role where
  name : String
  clientId : String
  deriving DecidableEq

/-- A row of the `users` table, with its roles. -/
structure User where
  id : String
  /-- Missing for a platform-level user. -/
  tenantId : Option String
  email : String
  name : Option String
  firstName : Option String
  lastName : Option String
  phone : Option String
  passwordHash : String
  isPlatformAdmin : Bool
  isTenantAdmin : Bool
  emailVerifiedAt : Option Nat
  deletedAt : Option Nat
  roles : List Role
  deriving DecidableEq

/-- The columns of the unique indexes of `users`: an address is unique within a
tenant, and among the platform-level users. -/
def User.address (user : User) : Option (Option String × String) :=
  some (user.tenantId, user.email)

/-- The account tables, with the constraints on them. -/
structure Accounts where
  tenants : Table Tenant.id
  apps : Table App.id
  appTenants : Table AppTenant.key
  users : Table User.id
  addressUnique : users.Unique User.address
  /-- `AppsService.create` is the only writer of this column. -/
  clientIdGiven : ∀ app ∈ apps.rows, app.clientId ≠ ""
  clientIdUnique : apps.Unique fun app => some app.clientId
  subscriptionUnique : appTenants.Unique AppTenant.stripeSubscriptionId
  /-- The foreign keys of `app_tenants`. -/
  references : ∀ enablement ∈ appTenants.rows,
    (tenants.find? enablement.tenantId).isSome ∧
      (apps.find? enablement.appId).isSome

/-- Accounts without rows. -/
def Accounts.empty : Accounts where
  tenants := .empty
  apps := .empty
  appTenants := .empty
  users := .empty
  addressUnique := Table.unique_empty _
  clientIdGiven := fun _ present => absurd present List.not_mem_nil
  clientIdUnique := Table.unique_empty _
  subscriptionUnique := Table.unique_empty _
  references := fun _ present => absurd present List.not_mem_nil

/-- What a call throws. -/
inductive AuthError
  | badRequest (message : String)
  | unauthorized (message : String)
  | forbidden (message : String)
  | notFound (message : String)
  | conflict (message : String)
  /-- A failed statement, answered with status 500. -/
  | internal
  deriving DecidableEq

namespace Accounts

variable (accounts : Accounts)

/-- `tenant.findFirst` by slug, among those not deleted. -/
def findTenant (slug : String) : Option Tenant :=
  accounts.tenants.rows.find? fun tenant =>
    tenant.slug = slug && tenant.deletedAt.isNone

/-- `user.findFirst` by address within a tenant, among those not deleted. -/
def findUser (tenantId : Option String) (email : String) : Option User :=
  accounts.users.rows.find? fun user =>
    user.tenantId = tenantId && user.email = email && user.deletedAt.isNone

/-- `app.findFirst` by client id, among those not deleted. -/
def findApp (clientId : String) : Option App :=
  accounts.apps.rows.find? fun app =>
    app.clientId = clientId && app.deletedAt.isNone

/-- The tenant of a user. -/
def tenantOf (user : User) : Option Tenant :=
  user.tenantId.bind accounts.tenants.find?

/-- `user.findFirst` by address within a tenant, other than a given user. -/
def findClash (user : User) (email : String) : Option User :=
  accounts.users.rows.find? fun other =>
    other.tenantId = user.tenantId && other.email = email &&
      other.id ≠ user.id

/-- `user.count` of the other platform admins. -/
def otherAdmins (user : User) : Nat :=
  accounts.users.rows.countP fun other =>
    other.isPlatformAdmin && other.deletedAt.isNone && other.id ≠ user.id

/-- Write a user, which throws when another user has the address. -/
def putUser (user : User) : Option Accounts :=
  if free : accounts.users.HeldElsewhere User.address user then none
  else some
    { accounts with
      users := accounts.users.put user
      addressUnique := accounts.addressUnique.put user free }

/-- `user.update` by id, which throws when there is no such row. -/
def updateUser (id : String) (change : User → User) : Option Accounts :=
  (accounts.users.find? id).bind fun user => accounts.putUser (change user)

variable {accounts} {after : Accounts}

theorem users_of_putUser
    {user : User}
    (written : accounts.putUser user = some after) :
    after.users = accounts.users.put user := by
  unfold putUser at written
  split at written
  · contradiction
  · obtain rfl := Option.some.inj written
    rfl

/-- Only users are written. -/
theorem others_of_putUser
    {user : User}
    (written : accounts.putUser user = some after) :
    after.tenants = accounts.tenants ∧ after.apps = accounts.apps := by
  unfold putUser at written
  split at written
  · contradiction
  · obtain rfl := Option.some.inj written
    exact ⟨rfl, rfl⟩

theorem appTenants_of_putUser
    {user : User}
    (written : accounts.putUser user = some after) :
    after.appTenants = accounts.appTenants := by
  unfold putUser at written
  split at written
  · contradiction
  · obtain rfl := Option.some.inj written
    rfl

theorem users_of_updateUser
    {id : String}
    {change : User → User}
    (sameId : ∀ user, (change user).id = user.id)
    (updated : accounts.updateUser id change = some after) :
    after.tenants = accounts.tenants ∧ after.apps = accounts.apps ∧
      ∀ other, after.users.find? other = if other = id then
        (accounts.users.find? id).map change else accounts.users.find? other := by
  simp only [updateUser, Option.bind_eq_some_iff] at updated
  obtain ⟨stored, found, written⟩ := updated
  have isId := accounts.users.key_of_find? found
  obtain ⟨sameTenants, sameApps⟩ := others_of_putUser written
  refine ⟨sameTenants, sameApps, ?_⟩
  intro other
  rw [users_of_putUser written, Table.find?_put, sameId, isId, found]
  rfl

theorem appTenants_of_updateUser
    {id : String}
    {change : User → User}
    (updated : accounts.updateUser id change = some after) :
    after.appTenants = accounts.appTenants := by
  simp only [updateUser, Option.bind_eq_some_iff] at updated
  obtain ⟨_, _, written⟩ := updated
  exact appTenants_of_putUser written

/-- An updated user is found with the changes. -/
theorem find?_of_updateUser
    {id : String}
    {change : User → User}
    (sameId : ∀ user, (change user).id = user.id)
    (updated : accounts.updateUser id change = some after) :
    ∃ stored, accounts.users.find? id = some stored ∧
      after.users.find? id = some (change stored) := by
  simp only [updateUser, Option.bind_eq_some_iff] at updated
  obtain ⟨stored, found, written⟩ := updated
  refine ⟨stored, found, ?_⟩
  have isId := accounts.users.key_of_find? found
  rw [users_of_putUser written, Table.find?_put, sameId, isId, if_pos rfl]

end Accounts

/-! ## The gate -/

/-- A text that is neither missing nor empty. -/
def given (text : Option String) : Option String :=
  text.filter fun text => text ≠ ""

theorem given_some {text : String} (isGiven : text ≠ "") :
    given (some text) = some text := by
  simp [given, isGiven]

theorem eq_of_given
    {text : Option String}
    {value : String}
    (isGiven : given text = some value) :
    text = some value :=
  (Option.filter_eq_some_iff.mp isGiven).1

/-- `deadline != null && deadline < now`. -/
def passed (deadline : Option Nat) (now : Nat) : Bool :=
  deadline.any fun time => time < now

/-- `assertTenantUsable`. -/
def assertTenantUsable (now : Nat) : Option Tenant → Except AuthError Unit
  | none => .ok ()
  | some tenant =>
      let graceExpired :=
        tenant.status = .pastDue && passed tenant.graceUntil now
      if tenant.deletedAt.isSome || tenant.status = .suspended ||
          graceExpired then
        .error (.forbidden "Tenant is suspended")
      else .ok ()

/-- What `assertAppEnabled` requires of the enablement it has found. -/
def assertEnablement (now : Nat) : Option AppTenant → Except AuthError Unit
  | none => .error (.forbidden "App is not enabled for this workspace")
  | some enablement =>
      if enablement.status = .suspended then
        .error (.forbidden "App access is suspended for this workspace")
      else if enablement.status = .trial && passed enablement.trialEndsAt now
          then
        .error (.forbidden "Trial has ended for this workspace")
      else if enablement.status = .pastDue && passed enablement.graceUntil now
          then
        .error (.forbidden "App access is suspended for this workspace")
      else .ok ()

/-- `rolesForApp`. -/
def rolesForApp (user : User) (clientId : Option String) : List String :=
  (user.roles.filter fun role =>
    match given clientId with
    | none => true
    | some clientId => role.clientId = clientId).map Role.name

end Auth
end EvoPlatform
