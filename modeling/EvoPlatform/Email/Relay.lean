import EvoPlatform.Email.Quota
import EvoPlatform.Foundation.Pool
import EvoPlatform.Foundation.Secrets

/-!
# The relays of the platform

`send`, `upsertConfig` and `getConfig`, one database statement at a time, beside
the statements that create, remove and purge a workspace.  The password of a
relay is encrypted when it is saved, and decrypted when a message is sent.
-/

namespace EvoPlatform
namespace Email

/-! ## Encrypted passwords

A password that was encrypted by this cipher. -/

def demoKey : List UInt8 :=
  [226, 24, 109, 189, 177, 187, 65, 147, 96, 134, 5, 232, 79, 51, 32, 135,
    101, 181, 105, 59, 85, 237, 212, 247, 48, 167, 25, 161, 0, 238, 234, 111]

def demoIv : List UInt8 := [0, 1, 2, 3, 4, 5, 6, 7, 8, 9, 10, 11]

def demoPassword : String := "pässwort"

def demoCiphertext : List UInt8 :=
  [30, 231, 245, 114, 76, 237, 118, 159, 54]

def demoTag : List UInt8 :=
  [54, 87, 37, 224, 22, 9, 203, 116, 19, 23, 217, 141, 47, 77, 24, 53]

/-- What the cipher makes of the password; anything else is left as it is. -/
def demoAead : Aead where
  cipher key iv plain :=
    if key = demoKey ∧ iv = demoIv ∧ plain = Utf8.encode demoPassword then
      demoCiphertext
    else plain
  authTag key iv plain :=
    if key = demoKey ∧ iv = demoIv ∧ plain = Utf8.encode demoPassword then
      demoTag
    else List.replicate 16 0
  decipher key iv tag ciphertext :=
    if tag = demoTag then
      if key = demoKey ∧ iv = demoIv ∧ ciphertext = demoCiphertext then
        some (Utf8.encode demoPassword)
      else none
    else if tag = List.replicate 16 0 then some ciphertext
    else none
  tagLength := by
    intro key iv plain
    split <;> rfl
  restored := by
    intro key iv plain _
    by_cases isDemo :
        key = demoKey ∧ iv = demoIv ∧ plain = Utf8.encode demoPassword
    · simp [isDemo]
    · have apart : List.replicate 16 (0 : UInt8) ≠ demoTag := by decide
      rw [if_neg isDemo, if_neg isDemo, if_neg apart, if_pos rfl]

def demoSecrets : Secrets where
  aead := demoAead
  sha256 bytes := if bytes = Utf8.encode "change-me" then demoKey else []
  secretKey := "change-me"

example : encryptSecret demoSecrets demoIv demoPassword =
    "AAECAwQFBgcICQoLNlcl4BYJy3QTF9mNL00YNR7n9XJM7XafNg==" := by
  decide +kernel

/-! ## The tables -/

/-- A text that is neither missing nor empty. -/
def presentText (text : Option String) : Option String :=
  text.filter fun text => text ≠ ""

/-- The columns that `upsertConfig` writes. -/
structure SmtpData where
  host : String
  port : Int
  secure : Bool
  username : Option String
  passwordEnc : Option String
  fromAddress : String
  deriving DecidableEq

/-- A row of the `smtp_configs` table.  The one without a tenant is the default
of the platform. -/
structure SmtpConfig extends SmtpData where
  id : String
  tenantId : Option String
  deriving DecidableEq

/-- The row of a `create`. -/
def SmtpData.config (data : SmtpData) (id : String) (tenantId : Option String) :
    SmtpConfig :=
  { data with id := id, tenantId := tenantId }

namespace SmtpConfig

def tenantColumn (config : SmtpConfig) : Option String := config.tenantId

/-- The column of `smtp_configs_platform_default_key`. -/
def defaultColumn (config : SmtpConfig) : Option Unit :=
  if config.tenantId = none then some () else none

/-- What `ON DELETE SET NULL` makes of the row of a deleted tenant. -/
def orphaned (id : String) (config : SmtpConfig) : SmtpConfig :=
  if config.tenantId = some id then { config with tenantId := none }
  else config

@[simp] theorem id_orphaned (id : String) (config : SmtpConfig) :
    (config.orphaned id).id = config.id := by
  unfold orphaned
  split <;> rfl

theorem tenantId_orphaned (id : String) (config : SmtpConfig) :
    (config.orphaned id).tenantId =
      if config.tenantId = some id then none else config.tenantId := by
  unfold orphaned
  split <;> rfl

/-- Write the columns of an `update`. -/
def withData (data : SmtpData) (config : SmtpConfig) : SmtpConfig :=
  data.config config.id config.tenantId

end SmtpConfig

/-- A row of the `tenants` table, as these calls read it. -/
structure RelayTenant where
  id : String
  deletedAt : Option Int
  deriving DecidableEq

/-- What the trail records of these calls. -/
inductive RelayEvent
  | sent (tenantId appClientId : Option String)
      (recipient subject : String)
  | quotaExceeded (breach : QuotaExceeded)

/-- The tables, with their constraints, and the quotas of the process. -/
structure RelayDb where
  tenants : Table RelayTenant.id
  configs : Table SmtpConfig.id
  tenantUnique : configs.Unique SmtpConfig.tenantColumn
  defaultUnique : configs.Unique SmtpConfig.defaultColumn
  ofTenant : ∀ config ∈ configs.rows, ∀ tenantId ∈ config.tenantId,
    (tenants.find? tenantId).isSome
  quota : QuotaState
  trail : List RelayEvent

namespace RelayDb

/-- No rows. -/
def empty : RelayDb where
  tenants := .empty
  configs := .empty
  tenantUnique := Table.unique_empty _
  defaultUnique := Table.unique_empty _
  ofTenant := fun _ present => absurd present List.not_mem_nil
  quota := .new
  trail := []

variable (db : RelayDb)

/-- `audit.record`. -/
def record (event : RelayEvent) : RelayDb :=
  { db with trail := db.trail ++ [event] }

/-- The first row with this tenant, or the default. -/
def findConfig (tenantId : Option String) : Option SmtpConfig :=
  db.configs.rows.find? fun config => config.tenantId = tenantId

/-- No other row has the tenant of a row, and the tenant exists. -/
def Fits (config : SmtpConfig) : Prop :=
  ¬ db.configs.HeldElsewhere SmtpConfig.tenantColumn config ∧
    ¬ db.configs.HeldElsewhere SmtpConfig.defaultColumn config ∧
      ∀ tenantId ∈ config.tenantId, (db.tenants.find? tenantId).isSome

instance (config : SmtpConfig) : Decidable (db.Fits config) :=
  inferInstanceAs (Decidable (_ ∧ _ ∧ ∀ _ ∈ _, _))

/-- `smtpConfig.create`, which throws when a constraint refuses the row. -/
def createConfig (config : SmtpConfig) : Option RelayDb :=
  if fits : db.Fits config then
    if (db.configs.find? config.id).isSome then none
    else some
      { db with
        configs := db.configs.put config
        tenantUnique := db.tenantUnique.put config fits.1
        defaultUnique := db.defaultUnique.put config fits.2.1
        ofTenant := by
          intro other present
          rcases (db.configs.mem_put_iff config other).mp present with
            rfl | ⟨before, _⟩
          · exact fits.2.2
          · exact db.ofTenant other before }
  else none

/-- A row with this id gets other columns. -/
def written (id : String) (data : SmtpData) (config : SmtpConfig) :
    SmtpConfig :=
  if config.id = id then config.withData data else config

@[simp] theorem id_written (id : String) (data : SmtpData)
    (config : SmtpConfig) :
    (written id data config).id = config.id := by
  unfold written
  split <;> rfl

@[simp] theorem tenantId_written (id : String) (data : SmtpData)
    (config : SmtpConfig) :
    (written id data config).tenantId = config.tenantId := by
  unfold written
  split <;> rfl

/-- `smtpConfig.update` by id, which throws when there is no such row. -/
def updateConfig (id : String) (data : SmtpData) :
    Option (RelayDb × SmtpConfig) :=
  (db.configs.find? id).map fun stored =>
    ({ db with
        configs := db.configs.mapRows (written id data) (id_written id data)
        tenantUnique := db.tenantUnique.mapRows _ _
          (tenantId_written id data)
        defaultUnique := db.defaultUnique.mapRows _ _ fun config => by
          rw [SmtpConfig.defaultColumn, tenantId_written,
            ← SmtpConfig.defaultColumn]
        ofTenant := by
          intro config present
          obtain ⟨before, isBefore, rfl⟩ := List.mem_map.mp present
          rw [tenantId_written]
          exact db.ofTenant before isBefore },
      stored.withData data)

/-- `tenant.create`. -/
def createTenant (id : String) : Option RelayDb :=
  if (db.tenants.find? id).isSome then none
  else some
    { db with
      tenants := db.tenants.put ⟨id, none⟩
      ofTenant := by
        intro config present tenantId isTenant
        rw [Table.find?_put]
        split
        · rfl
        · exact db.ofTenant config present tenantId isTenant }

/-- `tenant.update` of `deletedAt`. -/
def removeTenant (id : String) (now : Int) : Option RelayDb :=
  if (db.tenants.find? id).isSome then
    some
      { db with
        tenants := db.tenants.put ⟨id, some now⟩
        ofTenant := by
          intro config present tenantId isTenant
          rw [Table.find?_put]
          split
          · rfl
          · exact db.ofTenant config present tenantId isTenant }
  else none

theorem configs_createTenant
    {after : RelayDb}
    {id : String}
    (created : db.createTenant id = some after) :
    after.configs = db.configs := by
  unfold createTenant at created
  split at created
  · contradiction
  · rw [← Option.some.inj created]

theorem configs_removeTenant
    {after : RelayDb}
    {id : String}
    {now : Int}
    (removed : db.removeTenant id now = some after) :
    after.configs = db.configs := by
  unfold removeTenant at removed
  split at removed
  · rw [← Option.some.inj removed]
  · contradiction

/-- The configs without the one that the transaction of a purge has deleted. -/
def spared (doomed : Option String) : Table SmtpConfig.id :=
  db.configs.eraseWhere fun config => doomed = some config.id

/-- The tenant has a config that the transaction has not deleted, while there is
a default already. -/
def Displaces (id : String) (doomed : Option String) : Prop :=
  (∃ config ∈ (db.spared doomed).rows, config.tenantId = some id) ∧
    ∃ config ∈ (db.spared doomed).rows, config.tenantId = none

instance (id : String) (doomed : Option String) :
    Decidable (db.Displaces id doomed) :=
  inferInstanceAs (Decidable ((∃ _ ∈ _, _) ∧ ∃ _ ∈ _, _))

section Purge

variable {db} {id : String} {doomed : Option String}

theorem tenantUnique_purge (id : String) (doomed : Option String) :
    ((db.spared doomed).mapRows (SmtpConfig.orphaned id)
      (SmtpConfig.id_orphaned id)).Unique SmtpConfig.tenantColumn := by
  have kept : ∀ {config : SmtpConfig} {tenantId : String},
      (config.orphaned id).tenantId = some tenantId →
        config.tenantId = some tenantId := by
    intro config tenantId isTenant
    rw [SmtpConfig.tenantId_orphaned] at isTenant
    split at isTenant
    · contradiction
    · exact isTenant
  intro left leftPresent right rightPresent tenantId leftHolds rightHolds
  obtain ⟨first, isFirst, rfl⟩ := List.mem_map.mp leftPresent
  obtain ⟨second, isSecond, rfl⟩ := List.mem_map.mp rightPresent
  rw [db.tenantUnique first (List.mem_of_mem_filter isFirst) second
    (List.mem_of_mem_filter isSecond) tenantId (kept leftHolds)
    (kept rightHolds)]

theorem defaultUnique_purge
    (free : ¬ db.Displaces id doomed) :
    ((db.spared doomed).mapRows (SmtpConfig.orphaned id)
      (SmtpConfig.id_orphaned id)).Unique SmtpConfig.defaultColumn := by
  have origin : ∀ {config : SmtpConfig} {mark : Unit},
      (config.orphaned id).defaultColumn = some mark →
        config.tenantId = some id ∨ config.tenantId = none := by
    intro config mark isDefault
    simp only [SmtpConfig.defaultColumn, SmtpConfig.tenantId_orphaned,
      ite_eq_left_iff, reduceCtorEq, imp_false, not_not] at isDefault
    by_cases own : config.tenantId = some id
    · exact .inl own
    · exact .inr (isDefault own)
  intro left leftPresent right rightPresent mark leftHolds rightHolds
  obtain ⟨first, isFirst, rfl⟩ := List.mem_map.mp leftPresent
  obtain ⟨second, isSecond, rfl⟩ := List.mem_map.mp rightPresent
  have firstBefore := List.mem_of_mem_filter isFirst
  have secondBefore := List.mem_of_mem_filter isSecond
  rcases origin leftHolds with firstOwn | firstDefault <;>
    rcases origin rightHolds with secondOwn | secondDefault
  · rw [db.tenantUnique first firstBefore second secondBefore id firstOwn
      secondOwn]
  · exact absurd ⟨⟨first, isFirst, firstOwn⟩, second, isSecond, secondDefault⟩
      free
  · exact absurd ⟨⟨second, isSecond, secondOwn⟩, first, isFirst, firstDefault⟩
      free
  · rw [db.defaultUnique first firstBefore second secondBefore ()
      (if_pos firstDefault) (if_pos secondDefault)]

theorem ofTenant_purge (id : String) (doomed : Option String) :
    ∀ config ∈ ((db.spared doomed).mapRows (SmtpConfig.orphaned id)
      (SmtpConfig.id_orphaned id)).rows,
      ∀ tenantId ∈ config.tenantId,
        ((db.tenants.erase id).find? tenantId).isSome := by
  intro config present tenantId isTenant
  obtain ⟨before, isBefore, rfl⟩ := List.mem_map.mp present
  rw [SmtpConfig.tenantId_orphaned] at isTenant
  split at isTenant
  · contradiction
  · rename_i elsewhere
    rw [Table.find?_erase, if_neg (by rintro rfl; exact elsewhere isTenant)]
    exact db.ofTenant before (List.mem_of_mem_filter isBefore) tenantId isTenant

end Purge

/-- `tenant.delete`, at the end of the transaction of a purge, which throws when
there is no such tenant, or the default would not be unique any more.  A config
of the tenant that was saved since the transaction deleted the tenant's becomes
the default. -/
def purge (id : String) (doomed : Option String) : Option RelayDb :=
  if (db.tenants.find? id).isSome then
    if free : db.Displaces id doomed then none
    else some
      { db with
        tenants := db.tenants.erase id
        configs := (db.spared doomed).mapRows (SmtpConfig.orphaned id)
          (SmtpConfig.id_orphaned id)
        tenantUnique := tenantUnique_purge id doomed
        defaultUnique := defaultUnique_purge free
        ofTenant := ofTenant_purge id doomed }
  else none

end RelayDb

/-! ## Calls -/

/-- What a relay is used with. -/
structure ResolvedSmtp where
  host : String
  port : Int
  secure : Bool
  username : Option String
  password : Option String
  fromAddress : String
  deriving DecidableEq

/-- `config.smtpFallback`. -/
structure SmtpFallback where
  host : Option String
  port : Int
  secure : Bool
  username : Option String
  password : Option String
  fromAddress : String

def SmtpFallback.resolved (fallback : SmtpFallback) : Option ResolvedSmtp :=
  (presentText fallback.host).map fun host =>
    { host := host
      port := fallback.port
      secure := fallback.secure
      username := fallback.username
      password := fallback.password
      fromAddress := fallback.fromAddress }

/-- A row with its password, of which `decryptSecret` may throw. -/
def SmtpConfig.resolved (secrets : Secrets) (config : SmtpConfig) :
    Option ResolvedSmtp :=
  let opened (password : Option String) : ResolvedSmtp :=
    { host := config.host
      port := config.port
      secure := config.secure
      username := config.username
      password := password
      fromAddress := config.fromAddress }
  match presentText config.passwordEnc with
  | none => some (opened none)
  | some passwordEnc =>
      (decryptSecret secrets passwordEnc).map fun password =>
        opened (some password)

structure SendEmailDto where
  fromName : Option String
  tenantId : Option String
  recipient : String
  subject : String
  text : Option String
  html : Option String
  deriving DecidableEq

structure UpsertSmtpDto where
  tenantId : Option String
  host : String
  port : Int
  secure : Bool
  username : Option String
  password : Option String
  fromAddress : String
  deriving DecidableEq

/-- The columns of a saved relay. -/
def UpsertSmtpDto.data (secrets : Secrets) (iv : List UInt8)
    (dto : UpsertSmtpDto) : SmtpData where
  host := dto.host
  port := dto.port
  secure := dto.secure
  username := dto.username
  passwordEnc := (presentText dto.password).map (encryptSecret secrets iv)
  fromAddress := dto.fromAddress

/-- What is handed to a transport. -/
structure Mail where
  host : String
  port : Int
  secure : Bool
  /-- The name and the password of the user. -/
  auth : Option (String × String)
  fromName : Option String
  fromAddress : String
  recipient : String
  subject : String
  text : Option String
  html : Option String
  deriving DecidableEq

def SendEmailDto.mail (dto : SendEmailDto) (smtp : ResolvedSmtp) : Mail where
  host := smtp.host
  port := smtp.port
  secure := smtp.secure
  auth := (presentText smtp.username).map fun username =>
    (username, smtp.password.getD "")
  fromName := presentText dto.fromName
  fromAddress := smtp.fromAddress
  recipient := dto.recipient
  subject := dto.subject
  text := dto.text
  html := dto.html

/-- What a call throws. -/
inductive RelayError
  | forbidden (message : String)
  | tooManyRequests (message : String)
  | notFound (message : String)
  | conflict (message : String)
  | serviceUnavailable (message : String)
  /-- A failed statement or transport, answered with status 500. -/
  | internal
  deriving DecidableEq

/-- A row as the console shows it. -/
structure MaskedConfig where
  id : String
  tenantId : Option String
  host : String
  port : Int
  secure : Bool
  username : Option String
  fromAddress : String
  hasPassword : Bool
  deriving DecidableEq

def SmtpConfig.mask (config : SmtpConfig) : MaskedConfig where
  id := config.id
  tenantId := config.tenantId
  host := config.host
  port := config.port
  secure := config.secure
  username := config.username
  fromAddress := config.fromAddress
  hasPassword := (presentText config.passwordEnc).isSome

inductive RelayRequest
  /-- By an app, or by the platform itself. -/
  | send (dto : SendEmailDto) (callingApp : Option App)
  | upsertConfig (dto : UpsertSmtpDto)
  | getConfig (tenantId : Option String)
  | createTenant (id : String)
  | removeTenant (id : String)
  | purgeTenant (id : String)

/-- What a call returns. -/
inductive RelayAnswer
  | sent (messageId : String)
  | saved (config : MaskedConfig)
  | found (config : Option MaskedConfig)
  | ok

/-- What a statement is told from outside. -/
structure RelayInput where
  newId : String
  /-- `randomBytes(12)`. -/
  iv : List UInt8
  ivLength : iv.length = 12
  /-- The app is enabled for the workspace. -/
  access : Bool
  /-- `Date.now()`. -/
  now : Int
  /-- What the transport answers, if it does not throw. -/
  messageId : Option String

/-- Where a call stands: the statement that it waits for. -/
inductive RelayPhase
  -- send
  | received (dto : SendEmailDto) (callingApp : Option App)
  | findAccess (dto : SendEmailDto) (app : App)
  | assertQuota (dto : SendEmailDto) (app : App)
  | recordBreach (breach : QuotaExceeded)
  | findOwn (dto : SendEmailDto) (callingApp : Option App) (tenantId : String)
  | findDefault (dto : SendEmailDto) (callingApp : Option App)
  | sendMail (dto : SendEmailDto) (callingApp : Option App) (smtp : ResolvedSmtp)
  | recordSent (dto : SendEmailDto) (callingApp : Option App)
      (messageId : String)
  -- upsertConfig
  | findExisting (dto : UpsertSmtpDto)
  | update (dto : UpsertSmtpDto) (existing : SmtpConfig) (data : SmtpData)
  | create (dto : UpsertSmtpDto) (data : SmtpData)
  -- getConfig
  | findConfig (tenantId : Option String)
  -- the statements on a tenant
  | createTenant (id : String)
  | removeTenant (id : String)
  | findTenant (id : String)
  | deleteConfigs (id : String)
  | deleteTenant (id : String) (doomed : Option String)
  | done (outcome : Except RelayError RelayAnswer)
  /-- A request that failed or a server that stopped. -/
  | givenUp

namespace RelayPhase

def quotaExceeded : RelayPhase :=
  .done (.error (.tooManyRequests "Email quota exceeded for this app"))

/-- A send for which the app was let through. -/
def resolving (dto : SendEmailDto) (callingApp : Option App) : RelayPhase :=
  match presentText dto.tenantId with
  | some tenantId => .findOwn dto callingApp tenantId
  | none => .findDefault dto callingApp

/-- A send with a row, if its password can be decrypted. -/
def through (secrets : Secrets) (dto : SendEmailDto) (callingApp : Option App)
    (config : SmtpConfig) : RelayPhase :=
  match config.resolved secrets with
  | some smtp => .sendMail dto callingApp smtp
  | none => .done (.error .internal)

/-- The statement that a call waits for. -/
def step (secrets : Secrets) (fallback : SmtpFallback) (limits : EmailAppQuota)
    (input : RelayInput) (db : RelayDb) : RelayPhase → RelayDb × RelayPhase
  | .received dto callingApp =>
      match callingApp with
      | none => (db, resolving dto none)
      | some app =>
          match presentText dto.tenantId with
          | some _ => (db, .findAccess dto app)
          | none => (db, .assertQuota dto app)
  | .findAccess dto app =>
      if input.access then (db, .assertQuota dto app)
      else (db, .done (.error
        (.forbidden "App is not enabled for this workspace")))
  | .assertQuota dto app =>
      match Email.assertQuota limits db.quota app input.now with
      | (quota, .accepted) =>
          ({ db with quota := quota }, resolving dto (some app))
      | (quota, .refused (some breach)) =>
          ({ db with quota := quota }, .recordBreach breach)
      | (quota, _) => ({ db with quota := quota }, quotaExceeded)
  | .recordBreach breach => (db.record (.quotaExceeded breach), quotaExceeded)
  | .findOwn dto callingApp tenantId =>
      match db.findConfig (some tenantId) with
      | some own => (db, through secrets dto callingApp own)
      | none => (db, .findDefault dto callingApp)
  | .findDefault dto callingApp =>
      match db.findConfig none with
      | some config => (db, through secrets dto callingApp config)
      | none =>
          match fallback.resolved with
          | some smtp => (db, .sendMail dto callingApp smtp)
          | none => (db, .done (.error
              (.serviceUnavailable "No SMTP configuration available")))
  | .sendMail dto callingApp _ =>
      match input.messageId with
      | some messageId => (db, .recordSent dto callingApp messageId)
      | none => (db, .done (.error .internal))
  | .recordSent dto callingApp messageId =>
      (db.record (.sent dto.tenantId (callingApp.map App.clientId)
        dto.recipient dto.subject), .done (.ok (.sent messageId)))
  | .findExisting dto =>
      let data := dto.data secrets input.iv
      match db.findConfig dto.tenantId with
      | some existing => (db, .update dto existing data)
      | none => (db, .create dto data)
  | .update _ existing data =>
      match db.updateConfig existing.id data with
      | some (after, saved) => (after, .done (.ok (.saved saved.mask)))
      | none => (db, .done (.error .internal))
  | .create dto data =>
      let config := data.config input.newId dto.tenantId
      match db.createConfig config with
      | some after => (after, .done (.ok (.saved config.mask)))
      | none => (db, .done (.error .internal))
  | .findConfig tenantId =>
      (db, .done (.ok (.found ((db.findConfig tenantId).map SmtpConfig.mask))))
  | .createTenant id =>
      match db.createTenant id with
      | some after => (after, .done (.ok .ok))
      | none => (db, .done (.error .internal))
  | .removeTenant id =>
      match db.removeTenant id input.now with
      | some after => (after, .done (.ok .ok))
      | none => (db, .done (.error .internal))
  | .findTenant id =>
      match db.tenants.find? id with
      | none => (db, .done (.error (.notFound "Tenant not found")))
      | some tenant =>
          if tenant.deletedAt = none then
            (db, .done (.error (.conflict
              "Purge requires the tenant to be soft-deleted first")))
          else (db, .deleteConfigs id)
  | .deleteConfigs id =>
      (db, .deleteTenant id ((db.findConfig (some id)).map SmtpConfig.id))
  | .deleteTenant id doomed =>
      match db.purge id doomed with
      | some after => (after, .done (.ok .ok))
      | none => (db, .done (.error .internal))
  | .done outcome => (db, .done outcome)
  | .givenUp => (db, .givenUp)

end RelayPhase

def RelayRequest.begins : RelayRequest → RelayPhase
  | .send dto callingApp => .received dto callingApp
  | .upsertConfig dto => .findExisting dto
  | .getConfig tenantId => .findConfig tenantId
  | .createTenant id => .createTenant id
  | .removeTenant id => .removeTenant id
  | .purgeTenant id => .findTenant id

/-- A call that ends early. -/
def RelayPhase.abandoned : RelayPhase → RelayPhase
  | .done outcome => .done outcome
  | _ => .givenUp

/-- The calls that use the relays. -/
def relayCalls (secrets : Secrets) (fallback : SmtpFallback)
    (limits : EmailAppQuota) :
    Program RelayDb RelayRequest RelayInput RelayPhase where
  begins := RelayRequest.begins
  step input db phase := phase.step secrets fallback limits input db
  abandoned := RelayPhase.abandoned

end Email
end EvoPlatform
