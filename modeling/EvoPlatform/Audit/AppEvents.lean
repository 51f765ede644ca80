import EvoPlatform.Auth.Accounts
import EvoPlatform.Foundation.Pool
import EvoPlatform.Foundation.Utf16

/-!
# Events of the apps

Apps are registered and renamed in the console, and push events of their own
under client credentials.  Each phase of a call is the statement that it waits
for.  What the rest of the platform has stored by then is an input of the step.
A stored event notes on whose behalf it was written, which no call reads.
-/

namespace EvoPlatform
namespace Audit

open Auth

/-! ## Rows -/

/-- A row of the `apps` table. -/
structure RegisteredApp where
  id : String
  clientId : String
  clientSecretHash : String
  name : String
  displayName : Option String
  callbackUrls : List String
  autoEnroll : Bool
  deletedAt : Option Nat
  deriving DecidableEq

/-- The unique column of `apps` that the console sets. -/
def RegisteredApp.nameColumn (app : RegisteredApp) : Option String :=
  some app.name

/-- Who has written an event. -/
inductive Writer
  | platform
  | app (id : String)
  deriving DecidableEq

/-- The detail of an event. -/
inductive EventDetail
  /-- The value that an app has pushed, as `JSON.stringify` writes it. -/
  | pushed (json : String)
  | created (name : String)
  /-- An app before and after an update. -/
  | updated (before after : RegisteredApp)
  | purged (name clientId : String) (roles tenants : Nat)
  /-- The value of another service, as `JSON.stringify` writes it. -/
  | other (json : String)
  deriving DecidableEq

/-- A row of the `audit_events` table. -/
structure StoredEvent where
  action : String
  tenantId : Option String
  userId : Option String
  appClientId : Option String
  detail : Option EventDetail
  writer : Writer
  deriving DecidableEq

/-- The tables that these calls write. -/
structure EventsDb where
  apps : Table RegisteredApp.id
  nameUnique : apps.Unique RegisteredApp.nameColumn
  events : List StoredEvent

namespace EventsDb

variable (db : EventsDb)

/-- `audit.record`. -/
def record (event : StoredEvent) : EventsDb :=
  { db with events := db.events ++ [event] }

/-- Write an app, which fails if another one has its name. -/
def putApp (app : RegisteredApp) : Option EventsDb :=
  if free : ¬ db.apps.HeldElsewhere RegisteredApp.nameColumn app then
    some
      { db with
        apps := db.apps.put app
        nameUnique := db.nameUnique.put app free }
  else
    none

/-- `app.delete`. -/
def deleteApp (id : String) : EventsDb :=
  { db with
    apps := db.apps.erase id
    nameUnique := db.nameUnique.eraseWhere _ }

end EventsDb

/-! ## Actions -/

/-- The actions that the services of the platform record. -/
def platformActions : List String :=
  ["tenant.member_created", "tenant.member_updated",
    "tenant.member_deactivated", "tenant.member_restored",
    "tenant.member_roles_set", "tenant.invite_created", "tenant.invite_resent",
    "tenant.invite_revoked", "tenant.invite_accepted", "tenant.created",
    "tenant.app_access_set", "tenant.app_access_removed", "tenant.deleted",
    "tenant.restored", "tenant.suspended", "tenant.activated",
    "tenant.exported", "tenant.purged",
    "user.created", "user.email_changed", "user.deleted", "user.purged",
    "auth.sessions_revoked", "auth.verification_sent", "auth.email_verified",
    "auth.workspaces_listed", "auth.reset_requested", "auth.password_reset",
    "auth.signup", "auth.login", "auth.refresh_reuse_detected",
    "auth.passkey_registered", "auth.passkey_deleted",
    "billing.orphan_subscription", "billing.subscription_synced",
    "billing.payment_recovered", "billing.purchase_completed",
    "billing.payment_failed",
    "email.sent", "email.quota_exceeded", "email.template_updated",
    "email.template_reset",
    "app.deleted", "app.restored", "app.purged", "app.created", "app.updated",
    "app.secret_rotated", "app.price_added", "app.price_refreshed",
    "app.price_removed", "app.role_renamed", "app.role_deleted",
    "app.brand_updated",
    "admin.bootstrapped"]

/-- An action of the platform. -/
abbrev PlatformAction := {action : String // action ∈ platformActions}

/-- A character that `trim` strips. -/
def isBlank (character : Char) : Bool :=
  character.toNat < 65536 && JsString.isWhiteSpace character.toNat.toUInt16

/-- `String.prototype.trim`. -/
def trimText (text : String) : String :=
  String.ofList ((text.toList.dropWhile isBlank).rdropWhile isBlank)

/-- The action under which an event of an app is stored. -/
def appAction (name action : String) : String := name ++ "." ++ trimText action

/-- `MAX_APP_EVENT_DETAIL_BYTES`. -/
def maxAppEventDetailBytes : Nat := 4096

/-! ## Calls -/

structure CreateAppDto where
  name : String
  displayName : Option String
  callbackUrls : Option (List String)
  autoEnroll : Option Bool
  deriving DecidableEq

structure UpdateAppDto where
  name : Option String
  /-- An explicit null clears the column. -/
  displayName : Option (Option String)
  callbackUrls : Option (List String)
  autoEnroll : Option Bool
  deriving DecidableEq

structure PushEventDto where
  action : String
  tenantId : Option String
  userId : Option String
  /-- The value, as `JSON.stringify` writes it. -/
  detail : Option String
  deriving DecidableEq

/-- What a request asks for. -/
inductive EventsRequest
  | create (dto : CreateAppDto)
  | update (id : String) (dto : UpdateAppDto)
  | remove (id : String)
  | restore (id : String)
  | purge (id : String)
  /-- `POST /events` with the two headers of the client credentials. -/
  | push (clientId clientSecret : Option String) (dto : PushEventDto)
  /-- Another service of the platform records one of its actions. -/
  | record (action : PlatformAction)
      (tenantId userId appClientId json : Option String)
  deriving DecidableEq

/-- What the statements of a call find beside the tables they write. -/
structure EventsInput where
  now : Nat
  /-- The account tables, as the rest of the platform has left them. -/
  accounts : Accounts
  /-- `role.count`. -/
  roles : Nat
  /-- The id of a created row, and the credentials that are drawn for it. -/
  id : String
  clientId : String
  clientSecretHash : String

/-- What a call answers. -/
inductive EventsAnswer
  | app (app : RegisteredApp)
  | purged (roles tenants : Nat)
  | stored (event : StoredEvent)
  | recorded
  deriving DecidableEq

/-- Where a call stands: the statement it waits for. -/
inductive EventsPhase
  | findName (dto : CreateAppDto)
  | createApp (dto : CreateAppDto)
  | findUpdated (id : String) (dto : UpdateAppDto)
  | updateApp (before : RegisteredApp) (dto : UpdateAppDto)
  | findRemoved (id : String)
  | removeApp (existing : RegisteredApp)
  | findRestored (id : String)
  | restoreApp (existing : RegisteredApp)
  | findPurged (id : String)
  | countUses (app : RegisteredApp)
  | deleteApp (app : RegisteredApp) (roles tenants : Nat)
  /-- `ClientGuard`. -/
  | findClient (clientId clientSecret : String) (dto : PushEventDto)
  | findAccess (app : RegisteredApp) (dto : PushEventDto) (tenantId : String)
  | findMember (app : RegisteredApp) (dto : PushEventDto)
      (tenantId userId : String)
  | storeEvent (app : RegisteredApp) (dto : PushEventDto)
  /-- A service records an action of the platform, and the call answers. -/
  | record (action : PlatformAction)
      (tenantId userId appClientId : Option String)
      (detail : Option EventDetail) (answer : EventsAnswer)
  | done (outcome : Except AuthError EventsAnswer)
  deriving DecidableEq

/-- The columns that an update sets. -/
def UpdateAppDto.apply (dto : UpdateAppDto) (app : RegisteredApp) :
    RegisteredApp :=
  { app with
    name := dto.name.getD app.name
    displayName := dto.displayName.getD app.displayName
    callbackUrls := dto.callbackUrls.getD app.callbackUrls
    autoEnroll := dto.autoEnroll.getD app.autoEnroll }

/-- The fields of which a change is recorded. -/
def RegisteredApp.tracked (app : RegisteredApp) :
    String × Option String × List String × Bool :=
  (app.name, app.displayName, app.callbackUrls, app.autoEnroll)

/-- The event that an app has pushed. -/
def PushEventDto.event (dto : PushEventDto) (app : RegisteredApp) :
    StoredEvent where
  action := appAction app.name dto.action
  tenantId := dto.tenantId
  userId := dto.userId
  appClientId := some app.clientId
  detail := (dto.detail.filter fun json => json ≠ "null").map .pushed
  writer := .app app.id

namespace EventsPhase

/-- A call throws. -/
def throws (error : AuthError) : EventsPhase := .done (.error error)

/-- `recordFromApp` up to its first statement. -/
def recordFromApp (app : RegisteredApp) (dto : PushEventDto) : EventsPhase :=
  let bytes := (dto.detail.getD "").utf8ByteSize
  if dto.detail.isSome && maxAppEventDetailBytes < bytes then
    .throws (.badRequest ("detail is " ++ toString bytes ++
      " bytes; the limit is " ++ toString maxAppEventDetailBytes))
  else
    match given dto.tenantId with
    | some tenantId => .findAccess app dto tenantId
    | none =>
        if (given dto.userId).isSome then
          .throws (.badRequest "userId requires tenantId")
        else
          .storeEvent app dto

/-- Carry out the statement that a call waits for. -/
def step (compare : String → String → Bool) (input : EventsInput)
    (db : EventsDb) : EventsPhase → EventsDb × EventsPhase
  | .findName dto =>
      match db.apps.findBy RegisteredApp.nameColumn dto.name with
      | some _ => (db, .throws (.conflict
          ("App \"" ++ dto.name ++ "\" already exists")))
      | none => (db, .createApp dto)
  | .createApp dto =>
      let app : RegisteredApp :=
        { id := input.id
          clientId := input.clientId
          clientSecretHash := input.clientSecretHash
          name := dto.name
          displayName := dto.displayName
          callbackUrls := dto.callbackUrls.getD []
          autoEnroll := dto.autoEnroll.getD true
          deletedAt := none }
      if db.apps.rows.any fun other =>
          other.id = app.id || other.clientId = app.clientId then
        (db, .throws .internal)
      else
        match db.putApp app with
        | none => (db, .throws .internal)
        | some after => (after, .record ⟨"app.created", by decide⟩ none none
            (some app.clientId) (some (.created dto.name)) (.app app))
  | .findUpdated id dto =>
      match db.apps.find? id with
      | none => (db, .throws (.notFound "App not found"))
      | some before => (db, .updateApp before dto)
  | .updateApp before dto =>
      match db.apps.find? before.id with
      | none => (db, .throws .internal)
      | some stored =>
          let updated := dto.apply stored
          match db.putApp updated with
          | none => (db, .throws .internal)
          | some after =>
              if before.tracked = updated.tracked then
                (after, .done (.ok (.app updated)))
              else
                (after, .record ⟨"app.updated", by decide⟩ none none
                  (some before.clientId) (some (.updated before updated))
                  (.app updated))
  | .findRemoved id =>
      match db.apps.find? id with
      | none => (db, .throws (.notFound "App not found"))
      | some existing =>
          if existing.deletedAt.isSome then
            (db, .throws (.conflict "App is already deleted"))
          else
            (db, .removeApp existing)
  | .removeApp existing =>
      match db.apps.find? existing.id with
      | none => (db, .throws .internal)
      | some stored =>
          let app := { stored with deletedAt := some input.now }
          match db.putApp app with
          | none => (db, .throws .internal)
          | some after => (after, .record ⟨"app.deleted", by decide⟩ none none
              (some existing.clientId) none (.app app))
  | .findRestored id =>
      match db.apps.find? id with
      | none => (db, .throws (.notFound "App not found"))
      | some existing =>
          if existing.deletedAt.isNone then
            (db, .throws (.conflict "App is not deleted"))
          else
            (db, .restoreApp existing)
  | .restoreApp existing =>
      match db.apps.find? existing.id with
      | none => (db, .throws .internal)
      | some stored =>
          let app := { stored with deletedAt := none }
          match db.putApp app with
          | none => (db, .throws .internal)
          | some after => (after, .record ⟨"app.restored", by decide⟩ none none
              (some existing.clientId) none (.app app))
  | .findPurged id =>
      match db.apps.find? id with
      | none => (db, .throws (.notFound "App not found"))
      | some app =>
          if app.deletedAt.isNone then
            (db, .throws (.conflict
              "Purge requires the app to be soft-deleted first"))
          else
            (db, .countUses app)
  | .countUses app =>
      (db, .deleteApp app input.roles
        (input.accounts.appTenants.rows.countP fun row => row.appId = app.id))
  | .deleteApp app roles tenants =>
      if (db.apps.find? app.id).isSome then
        (db.deleteApp app.id, .record ⟨"app.purged", by decide⟩ none none none
          (some (.purged app.name app.clientId roles tenants))
          (.purged roles tenants))
      else
        (db, .throws .internal)
  | .findClient clientId clientSecret dto =>
      match db.apps.rows.find? fun app =>
          app.clientId = clientId && app.deletedAt.isNone with
      | none => (db, .throws (.unauthorized "Invalid client credentials"))
      | some app =>
          if compare clientSecret app.clientSecretHash then
            (db, .recordFromApp app dto)
          else
            (db, .throws (.unauthorized "Invalid client credentials"))
  | .findAccess app dto tenantId =>
      if (input.accounts.appTenants.find? (tenantId, app.id)).isNone then
        (db, .throws (.forbidden "App is not enabled for this workspace"))
      else
        match given dto.userId with
        | some userId => (db, .findMember app dto tenantId userId)
        | none => (db, .storeEvent app dto)
  | .findMember app dto tenantId userId =>
      if input.accounts.users.rows.any fun user =>
          user.id = userId && user.tenantId = some tenantId then
        (db, .storeEvent app dto)
      else
        (db, .throws (.badRequest "userId is not a member of that workspace"))
  | .storeEvent app dto =>
      (db.record (dto.event app), .done (.ok (.stored (dto.event app))))
  | .record action tenantId userId appClientId detail answer =>
      (db.record ⟨action, tenantId, userId, appClientId, detail, .platform⟩,
        .done (.ok answer))
  | .done outcome => (db, .done outcome)

end EventsPhase

/-- Where a request begins. -/
def EventsRequest.begins : EventsRequest → EventsPhase
  | .create dto => .findName dto
  | .update id dto => .findUpdated id dto
  | .remove id => .findRemoved id
  | .restore id => .findRestored id
  | .purge id => .findPurged id
  | .push (some clientId) (some clientSecret) dto =>
      .findClient clientId clientSecret dto
  | .push _ _ _ => .throws (.unauthorized "Missing client credentials")
  | .record action tenantId userId appClientId json =>
      .record action tenantId userId appClientId (json.map .other) .recorded

/-- The calls that write events, with `bcrypt.compare`. -/
def eventCalls (compare : String → String → Bool) :
    Program EventsDb EventsRequest EventsInput EventsPhase where
  begins := EventsRequest.begins
  step input db phase := phase.step compare input db
  abandoned
    | .done outcome => .done outcome
    | _ => .throws .internal

end Audit
end EvoPlatform
