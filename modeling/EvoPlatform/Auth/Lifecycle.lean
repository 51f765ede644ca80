import EvoPlatform.Auth.Administration

/-!
# Soft deletion and purge

The console deletes tenants, apps and users softly, restores them, and purges
those that are deleted.  A purge reads whether its row is deleted in one
statement and deletes it in a later one.
-/

namespace EvoPlatform
namespace Auth

/-- What the console may do to an app by id. -/
inductive AppOperation
  | remove
  | restore
  | purge

/-- The calls. -/
inductive LifecycleRequest
  | user (operation : UserOperation) (id : String)
  | tenant (operation : TenantOperation) (id : String)
  | restoreTenant (id : String)
  | app (operation : AppOperation) (id : String)

/-- What a call returns. -/
inductive LifecycleAnswer
  | tenant (tenant : Tenant)
  | app (app : App)
  | purged (roles tenants : Nat)

/-- The database with the `roles` table. -/
structure ConsoleDb where
  auth : AuthDb
  roles : Table StoredRole.id

/-! ## The database -/

namespace Accounts

variable (accounts : Accounts)

/-- `app.update` of `deletedAt` by id, which throws when there is no such
row. -/
def markApp (id : String) (deletedAt : Option Nat) : Option Accounts :=
  match found : accounts.apps.find? id with
  | none => none
  | some app =>
      some
        { accounts with
          apps := accounts.apps.put { app with deletedAt := deletedAt }
          clientIdGiven := by
            intro other present
            rcases (accounts.apps.mem_put_iff _ other).mp present with
              rfl | ⟨before, _⟩
            · exact accounts.clientIdGiven app
                (accounts.apps.mem_of_find? found)
            · exact accounts.clientIdGiven other before
          clientIdUnique := accounts.clientIdUnique.put _
            (accounts.clientIdUnique.not_heldElsewhere
              (accounts.apps.mem_of_find? found) rfl rfl)
          references := by
            intro enablement present
            obtain ⟨ofTenant, ofApp⟩ := accounts.references enablement present
            refine ⟨ofTenant, ?_⟩
            rw [Table.find?_put]
            split
            · rfl
            · exact ofApp }

/-- Take the roles of an app away from a user. -/
def withoutApp (clientId : String) (user : User) : User :=
  { user with roles := user.roles.filter fun role => role.clientId ≠ clientId }

theorem id_withoutApp (clientId : String) (user : User) :
    (withoutApp clientId user).id = user.id :=
  rfl

/-- Delete an app, its rows in `app_tenants`, and what users hold of its
roles. -/
def eraseApp (app : App) : Accounts :=
  { accounts with
    apps := accounts.apps.erase app.id
    clientIdGiven := by
      intro other present
      exact accounts.clientIdGiven other (List.mem_of_mem_filter present)
    clientIdUnique := accounts.clientIdUnique.eraseWhere _
    appTenants := accounts.appTenants.eraseWhere fun enablement =>
      enablement.appId = app.id
    subscriptionUnique := accounts.subscriptionUnique.eraseWhere _
    references := by
      intro enablement present
      obtain ⟨before, elsewhere⟩ := List.mem_filter.mp present
      obtain ⟨ofTenant, ofApp⟩ := accounts.references enablement before
      have different : enablement.appId ≠ app.id := by
        simpa using elsewhere
      refine ⟨ofTenant, ?_⟩
      rw [Table.find?_erase, if_neg different]
      exact ofApp
    users := accounts.users.mapRows (withoutApp app.clientId)
      (id_withoutApp app.clientId)
    addressUnique := accounts.addressUnique.mapRows (withoutApp app.clientId)
      (id_withoutApp app.clientId) fun _ => rfl }

end Accounts

namespace ConsoleDb

variable (db : ConsoleDb)

/-- Put accounts into the database. -/
def withAccounts (accounts : Accounts) : ConsoleDb :=
  { db with auth := db.auth.withAccounts accounts }

/-- `audit.record`. -/
def record (event : AuditEvent) : ConsoleDb :=
  { db with auth := db.auth.record event }

/-- `app.delete` by id, which throws when there is no such row. -/
def purgeApp (id : String) : Option ConsoleDb :=
  (db.auth.accounts.apps.find? id).map fun app =>
    { db.withAccounts (db.auth.accounts.eraseApp app) with
      roles := db.roles.eraseWhere fun role => role.appId = id }

end ConsoleDb

/-! ## Phases -/

/-- Where a call stands: the statement it sends next. -/
inductive LifecyclePhase
  /-- The operations on users, and `TenantsService.remove` and `purge`. -/
  | console (phase : AdminPhase)
  -- TenantsService.restore
  | findTenant (id : String)
  | restoreTenant (id : String)
  | recordTenantRestored (id : String) (tenant : Tenant)
  -- AppsService.remove, restore and purge
  | findApp (operation : AppOperation) (id : String)
  | writeApp (existing : App) (deleted : Bool)
  | recordApp (existing app : App) (deleted : Bool)
  | countRoles (app : App)
  | countTenants (app : App) (roles : Nat)
  | purgeApp (app : App) (roles tenants : Nat)
  | recordAppPurged (app : App) (roles tenants : Nat)
  /-- The call has ended. -/
  | done (outcome : Except AuthError LifecycleAnswer)

/-- The call throws. -/
def LifecyclePhase.throws (error : AuthError) : LifecyclePhase :=
  .done (.error error)

/-- The first phase of a call. -/
def LifecycleRequest.begins : LifecycleRequest → LifecyclePhase
  | .user operation id => .console (.findUser operation id)
  | .tenant operation id => .console (.findTenant operation id)
  | .restoreTenant id => .findTenant id
  | .app operation id => .findApp operation id

/-- Past the read of the app. -/
def AppOperation.goesOn (app : App) : AppOperation → LifecyclePhase
  | .remove =>
      if app.deletedAt.isSome then
        .throws (.conflict "App is already deleted")
      else .writeApp app true
  | .restore =>
      if app.deletedAt.isNone then
        .throws (.conflict "App is not deleted")
      else .writeApp app false
  | .purge =>
      if app.deletedAt.isNone then
        .throws (.conflict "Purge requires the app to be soft-deleted first")
      else .countRoles app

/-- Carry out the statement a call waits for, and go on to the next one.  The
two counts of an app purge are sent together; neither waits for the other. -/
def LifecyclePhase.step (env : AuthEnv) (now : Nat) (fresh : Fresh)
    (db : ConsoleDb) : LifecyclePhase → ConsoleDb × LifecyclePhase
  | .console phase =>
      let stepped := phase.step ⟨env, db.roles⟩ now fresh db.auth
      ({ db with auth := stepped.1 }, .console stepped.2)
  | .findTenant id =>
      (db, match db.auth.accounts.tenants.find? id with
        | none => .throws (.notFound "Tenant not found")
        | some _ => .restoreTenant id)
  | .restoreTenant id =>
      match db.auth.accounts.updateTenant id fun tenant =>
          { tenant with deletedAt := none } with
      | none => (db, .throws .internal)
      | some accounts =>
          (db.withAccounts accounts,
            match accounts.tenants.find? id with
            | none => .throws .internal
            | some tenant => .recordTenantRestored id tenant)
  | .recordTenantRestored id tenant =>
      (db.record ⟨"tenant.restored", some id, none, none, none, .none⟩,
        .done (.ok (.tenant tenant)))
  | .findApp operation id =>
      (db, match db.auth.accounts.apps.find? id with
        | none => .throws (.notFound "App not found")
        | some app => operation.goesOn app)
  | .writeApp existing deleted =>
      match db.auth.accounts.markApp existing.id
          (if deleted then some now else none) with
      | none => (db, .throws .internal)
      | some accounts =>
          (db.withAccounts accounts,
            match accounts.apps.find? existing.id with
            | none => .throws .internal
            | some app => .recordApp existing app deleted)
  | .recordApp existing app deleted =>
      (db.record ⟨if deleted then "app.deleted" else "app.restored", none,
        none, some existing.clientId, none, .none⟩, .done (.ok (.app app)))
  | .countRoles app =>
      (db, .countTenants app
        (db.roles.rows.countP fun role => role.appId = app.id))
  | .countTenants app roles =>
      (db, .purgeApp app roles
        (db.auth.accounts.appTenants.rows.countP fun enablement =>
          enablement.appId = app.id))
  | .purgeApp app roles tenants =>
      match db.purgeApp app.id with
      | none => (db, .throws .internal)
      | some purged => (purged, .recordAppPurged app roles tenants)
  | .recordAppPurged app roles tenants =>
      (db.record ⟨"app.purged", none, none, none, none,
        .appPurge app.clientId roles tenants⟩,
        .done (.ok (.purged roles tenants)))
  | .done outcome => (db, .done outcome)

/-- The console's calls as a program. -/
def lifecycle (env : AuthEnv) :
    Program ConsoleDb LifecycleRequest (Nat × Fresh) LifecyclePhase where
  begins := LifecycleRequest.begins
  step := fun input db phase => phase.step env input.1 input.2 db
  abandoned := fun _ => .throws .internal

end Auth
end EvoPlatform
