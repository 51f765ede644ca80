import EvoPlatform.Auth.References

/-!
# Erasure

`UsersService.purge` erases a user and `TenantsService.purge` a tenant with its
users.  Any calls of the platform work on the tables that name users, one
statement at a time; a record beside the database notes whom the purges have
erased.  Where users are named by a foreign key, the rows go with them.  The
trail and the invites have none, so that erasure is complete as long as a purge
reaches what was written before, and nobody writes about the erased afterwards.
-/

namespace EvoPlatform
namespace Auth

variable {τ : Type}

/-! ## The database -/

/-- The tables that name users. -/
structure PlatformTables extends InviteDb where
  roles : Table StoredRole.id
  credentials : Table PasskeyCredential.id
  credentialIdUnique : credentials.Unique fun credential =>
    some credential.credentialId
  countersFit : credentials.Every fun credential =>
    FitsInteger credential.signCount

/-- The database, with its foreign keys.  The rows of `user_roles` are kept with
their users. -/
structure PlatformDb extends PlatformTables where
  tokensOwned : ∀ token ∈ auth.tokens.rows,
    auth.accounts.HasUser token.userId
  credentialsOwned : ∀ credential ∈ credentials.rows,
    auth.accounts.HasUser credential.userId
  invitesOwned : ∀ invite ∈ invites.rows,
    (auth.accounts.tenants.find? invite.tenantId).isSome

/-- A statement takes effect, unless it leaves a token without its user.
Passkeys and invites go with their users and tenants. -/
def PlatformTables.commit (tables : PlatformTables) : Option PlatformDb :=
  if owned : ∀ token ∈ tables.auth.tokens.rows,
      tables.auth.accounts.HasUser token.userId then
    some
      { auth := tables.auth
        invites := tables.invites.eraseWhere fun invite =>
          (tables.auth.accounts.tenants.find? invite.tenantId).isNone
        tokenHashUnique := tables.tokenHashUnique.eraseWhere _
        roles := tables.roles
        credentials := tables.credentials.eraseWhere fun credential =>
          (tables.auth.accounts.users.find? credential.userId).isNone
        credentialIdUnique := tables.credentialIdUnique.eraseWhere _
        countersFit := tables.countersFit.eraseWhere _
        tokensOwned := owned
        credentialsOwned := by
          intro credential present
          have spared := (List.mem_filter.mp present).2
          simpa [Accounts.HasUser, Option.isSome_iff_ne_none] using spared
        invitesOwned := by
          intro invite present
          have spared := (List.mem_filter.mp present).2
          simpa [Option.isSome_iff_ne_none] using spared }
  else none

/-- The rows of `user_roles`. -/
def PlatformDb.userRoles (db : PlatformDb) : List (String × Role) :=
  db.auth.accounts.users.rows.flatMap fun user =>
    user.roles.map fun role => (user.id, role)

/-! ## The other writers -/

/-- What an update of a user sets, which is never the id. -/
structure UserWrite where
  change : User → User
  sameId : ∀ user, (change user).id = user.id

/-- A statement on tenants, apps and `app_tenants`, of which no column names a
user. -/
structure AccountsWrite where
  run : Accounts → Option Accounts
  sameUsers : ∀ accounts after, run accounts = some after →
    after.users = accounts.users

/-- The statements of the calls that no phases are given for. -/
inductive OtherWrite
  /-- `audit.record`, of whichever service. -/
  | record (event : AuditEvent)
  /-- The events that `RetentionService.sweep` leaves. -/
  | sweepAudit (kept : List AuditEvent)
  /-- The tokens that `RetentionService.sweep` deletes. -/
  | sweepTokens (expired : RefreshToken → Bool)
  /-- `UsersService.create`, and the first administrator. -/
  | createUser (user : User)
  /-- `UsersService.setRoles` and `verifyEmail`. -/
  | updateUser (id : String) (write : UserWrite)
  /-- Roles are created, renamed or deleted, the last with what users hold of
  them. -/
  | writeRoles (roles : Table StoredRole.id) (held : User → List Role)
  | writeAccounts (write : AccountsWrite)
  -- PasskeysService.registerVerify and remove
  | createCredential (credential : PasskeyCredential)
  | deleteCredentials (doomed : PasskeyCredential → Bool)

/-- Delete expired rows. -/
def Tokens.sweep (tokens : Tokens) (expired : RefreshToken → Bool) :
    Tokens where
  rows := tokens.rows.filter fun token => !expired token
  idsNodup := tokens.idsNodup.sublist (List.filter_sublist.map _)
  hashesNodup := tokens.hashesNodup.sublist (List.filter_sublist.map _)

/-- Write what users hold of the roles. -/
def Accounts.holdRoles (accounts : Accounts) (held : User → List Role) :
    Accounts :=
  { accounts with
    users := accounts.users.mapRows
      (fun user => { user with roles := held user }) fun _ => rfl
    addressUnique := accounts.addressUnique.mapRows
      (fun user => { user with roles := held user }) (fun _ => rfl)
      fun _ => rfl }

namespace PlatformDb

variable (db : PlatformDb)

/-- Put the account tables, the tokens and the trail into the database. -/
def withAuth (auth : AuthDb) : PlatformTables :=
  { db.toPlatformTables with auth := auth }

/-- `passkeyCredential.create`, which throws when the id or the credential id is
taken, the user is missing or the column cannot hold the counter. -/
def createCredential (credential : PasskeyCredential) :
    Option PlatformTables :=
  if free : ¬ db.credentials.HeldElsewhere
        (fun credential => some credential.credentialId) credential ∧
      (db.credentials.find? credential.id).isNone ∧
      db.auth.accounts.HasUser credential.userId ∧
      FitsInteger credential.signCount then
    some
      { db.toPlatformTables with
        credentials := db.credentials.put credential
        credentialIdUnique := db.credentialIdUnique.put credential free.1
        countersFit := db.countersFit.put free.2.2.2 }
  else none

end PlatformDb

/-- Carry out a statement. -/
def OtherWrite.apply (db : PlatformDb) : OtherWrite → Option PlatformTables
  | .record event => some (db.withAuth (db.auth.record event))
  | .sweepAudit kept =>
      if kept.Sublist db.auth.audit then
        some (db.withAuth { db.auth with audit := kept })
      else none
  | .sweepTokens expired =>
      some (db.withAuth
        { db.auth with tokens := db.auth.tokens.sweep expired })
  | .createUser user =>
      (db.auth.accounts.createUser user).map fun accounts =>
        db.withAuth (db.auth.withAccounts accounts)
  | .updateUser id write =>
      (db.auth.accounts.updateUser id write.change).map fun accounts =>
        db.withAuth (db.auth.withAccounts accounts)
  | .writeRoles roles held =>
      some
        { db.withAuth (db.auth.withAccounts
            (db.auth.accounts.holdRoles held)) with
          roles := roles }
  | .writeAccounts write =>
      (write.run db.auth.accounts).map fun accounts =>
        db.withAuth (db.auth.withAccounts accounts)
  | .createCredential credential => db.createCredential credential
  | .deleteCredentials doomed =>
      some
        { db.toPlatformTables with
          credentials := db.credentials.eraseWhere doomed
          credentialIdUnique := db.credentialIdUnique.eraseWhere doomed
          countersFit := db.countersFit.eraseWhere doomed }

/-! ## The calls of the platform -/

/-- The calls. -/
inductive PlatformRequest (τ : Type)
  | link (request : LinkRequest)
  | admin (request : AdminRequest)
  | lifecycle (request : LifecycleRequest)
  | invite (request : InviteRequest)
  | workspace (request : WorkspaceRequest τ)
  | passkey (request : LoginVerify τ)
  | write (statement : OtherWrite)

/-- Where a call stands. -/
inductive PlatformPhase (τ : Type)
  | link (phase : LinkPhase)
  | lifecycle (phase : LifecyclePhase)
  | invite (phase : InvitePhase)
  | workspace (phase : WorkspacePhase τ)
  | passkey (phase : PasskeyPhase τ)
  | write (statement : OtherWrite)
  /-- The call has made its statement, or has failed. -/
  | ended

/-- What a statement takes from outside. -/
structure PlatformInput extends WorkspaceInput where
  /-- `randomBytes(32)`, encoded. -/
  rawInvite : String

def PlatformInput.inviteFresh (input : PlatformInput) : InviteFresh :=
  ⟨input.fresh, input.rawInvite⟩

/-- The first phase of a call. -/
def PlatformRequest.begins (env : WorkspaceEnv τ) :
    PlatformRequest τ → PlatformPhase τ
  | .link request => .link (request.begins env.toAuthEnv)
  | .admin request => .lifecycle (.console request.begins)
  | .lifecycle request => .lifecycle request.begins
  | .invite request => .invite request.begins
  | .workspace request => .workspace request.begins
  | .passkey request => .passkey (.findCredential request)
  | .write statement => .write statement

namespace PlatformPhase

/-- The tables after the statement a call waits for, and where the call goes on,
unless the statement fails. -/
def run (env : WorkspaceEnv τ) (input : PlatformInput) (db : PlatformDb) :
    PlatformPhase τ → Option (PlatformTables × PlatformPhase τ)
  | .link phase =>
      let stepped := phase.step env.toAuthEnv
        ⟨input.now, input.fresh, input.allowed⟩ db.auth
      some (db.withAuth stepped.1, .link stepped.2)
  | .lifecycle phase =>
      let stepped := phase.step env.toAuthEnv input.now input.fresh
        ⟨db.auth, db.roles⟩
      some ({ db.withAuth stepped.1.auth with roles := stepped.1.roles },
        .lifecycle stepped.2)
  | .invite phase =>
      let stepped := phase.step ⟨env.toAuthEnv, db.roles⟩ input.now
        input.inviteFresh db.toInviteDb
      some ({ db.toPlatformTables with toInviteDb := stepped.1 },
        .invite stepped.2)
  | .workspace phase =>
      let stepped := phase.step env input.toWorkspaceInput db.auth
      some (db.withAuth stepped.1, .workspace stepped.2)
  | .passkey phase =>
      let stepped := phase.step env.toPasskeyEnv input.now input.fresh
        ⟨db.auth, db.credentials, db.credentialIdUnique, db.countersFit⟩
      some ({ db.withAuth stepped.1.auth with
          credentials := stepped.1.credentials
          credentialIdUnique := stepped.1.credentialIdUnique
          countersFit := stepped.1.countersFit },
        .passkey stepped.2)
  | .write statement => (statement.apply db).map fun tables => (tables, .ended)
  | .ended => some (db.toPlatformTables, .ended)

/-- Carry out the statement a call waits for, and go on to the next one. -/
def step (env : WorkspaceEnv τ) (input : PlatformInput) (db : PlatformDb)
    (phase : PlatformPhase τ) : PlatformDb × PlatformPhase τ :=
  match phase.run env input db with
  | none => (db, .ended)
  | some (tables, next) =>
      match tables.commit with
      | none => (db, .ended)
      | some after => (after, next)

end PlatformPhase

/-- The calls of the platform as a program. -/
def platformCalls (env : WorkspaceEnv τ) :
    Program PlatformDb (PlatformRequest τ) PlatformInput (PlatformPhase τ) where
  begins := PlatformRequest.begins env
  step := fun input db phase => phase.step env input db
  abandoned := fun _ => .ended

/-! ## What a call is about to write -/

namespace PlatformPhase

def recording : PlatformPhase τ → Option Reference
  | .link phase => phase.recording
  | .lifecycle phase => phase.recording
  | .invite phase => phase.recording
  | .workspace phase => phase.recording
  | .passkey phase => phase.recording
  | .write (.record event) => some event.reference
  | _ => none

def inviting (env : WorkspaceEnv τ) (input : PlatformInput) (db : PlatformDb) :
    PlatformPhase τ → Option Invite
  | .invite phase =>
      phase.inviting ⟨env.toAuthEnv, db.roles⟩ input.now input.inviteFresh
  | _ => none

def creates (input : PlatformInput) : PlatformPhase τ → Option String
  | .lifecycle phase => phase.creates input.fresh
  | .invite phase => phase.creates input.inviteFresh
  | .workspace phase => phase.creates input.toWorkspaceInput
  | .write (.createUser user) => some user.id
  | _ => none

def erasing : PlatformPhase τ → Option Erasure
  | .lifecycle phase => phase.erasing
  | _ => none

end PlatformPhase

/-! ## Who has been erased -/

/-- The users and tenants that the purges have erased. -/
structure Erased where
  users : List String
  tenants : List String

/-- Nobody has been erased. -/
def Erased.nobody : Erased := ⟨[], []⟩

/-- Whom a purge erases, if it finds its row. -/
def Erased.add (erased : Erased) (accounts : Accounts) (erasure : Erasure) :
    Erased :=
  if accounts.Finds erasure then
    { users := erased.users ++ accounts.erased erasure
      tenants :=
        match erasure with
        | .user _ => erased.tenants
        | .tenant id => erased.tenants ++ [id] }
  else erased

/-- What the record notes of a statement. -/
def noteErased (erased : Erased) (_ : Nat) (_ : PlatformInput) (db : PlatformDb)
    (phase : PlatformPhase τ) : Erased :=
  match phase.erasing with
  | some erasure => erased.add db.auth.accounts erasure
  | none => erased

/-- The calls, with the record of the erased. -/
abbrev watchedErasure (env : WorkspaceEnv τ) :=
  (platformCalls env).watch noteErased

/-- A state of the calls with the record. -/
abbrev ErasureState (τ : Type) := Pool PlatformDb (PlatformPhase τ) × Erased

/-- No row names an erased user, and no audit event an erased tenant. -/
structure PlatformDb.Forgets (db : PlatformDb) (erased : Erased) : Prop where
  audit : ∀ event ∈ db.auth.audit, ∀ id ∈ event.userId, id ∉ erased.users
  invites : ∀ invite ∈ db.invites.rows,
    ∀ id ∈ invite.invitedById, id ∉ erased.users
  userRoles : ∀ row ∈ db.userRoles, row.1 ∉ erased.users
  tokens : ∀ token ∈ db.auth.tokens.rows, token.userId ∉ erased.users
  credentials : ∀ credential ∈ db.credentials.rows,
    credential.userId ∉ erased.users
  tenants : ∀ event ∈ db.auth.audit, ∀ id ∈ event.tenantId, id ∉ erased.tenants

/-! ## When erasure is complete -/

/-- Nobody erased is named. -/
def Reference.Spares (reference : Reference) (erased : Erased) : Prop :=
  (∀ id ∈ reference.userId, id ∉ erased.users) ∧
    ∀ id ∈ reference.tenantId, id ∉ erased.tenants

/-- A purge that finds its row reaches whatever names those it erases: of a
user, no invite is left, and of the members of a tenant, neither an audit event
nor an invite outside the tenant. -/
def Erasure.Reaches (db : PlatformDb) : Erasure → Prop
  | .user id => db.auth.accounts.Finds (.user id) →
      ∀ invite ∈ db.invites.rows, invite.invitedById ≠ some id
  | .tenant id => db.auth.accounts.Finds (.tenant id) →
      ∀ member ∈ db.auth.accounts.members id,
        (∀ event ∈ db.auth.audit,
          event.userId = some member → event.tenantId = some id) ∧
        ∀ invite ∈ db.invites.rows,
          invite.invitedById = some member → invite.tenantId = id

/-- The next statement of a call writes about nobody erased, and is no purge
that leaves something behind. -/
structure PlatformPhase.Discreet (env : WorkspaceEnv τ) (input : PlatformInput)
    (db : PlatformDb) (erased : Erased) (phase : PlatformPhase τ) : Prop where
  recording : ∀ reference ∈ phase.recording, reference.Spares erased
  inviting : ∀ invite ∈ phase.inviting env input db,
    (db.createInvite invite).isSome →
      ∀ id ∈ invite.invitedById, id ∉ erased.users
  erasing : ∀ erasure ∈ phase.erasing, erasure.Reaches db

/-- A step of a call is discreet. -/
def StaysDiscreet (env : WorkspaceEnv τ) (state : ErasureState τ) :
    PoolEvent (PlatformRequest τ) PlatformInput → Prop
  | .advance index input => ∀ phase ∈ state.1.calls[index]?,
      phase.Discreet env input state.1.data state.2
  | _ => True

/-- The id that is drawn for a user is not that of an erased one. -/
def DrawsNewUser (state : ErasureState τ) :
    PoolEvent (PlatformRequest τ) PlatformInput → Prop
  | .advance index input => ∀ phase ∈ state.1.calls[index]?,
      ∀ id ∈ phase.creates input, id ∉ state.2.users
  | _ => True

section Decidable

variable (env : WorkspaceEnv τ)

instance (reference : Reference) (erased : Erased) :
    Decidable (reference.Spares erased) :=
  inferInstanceAs (Decidable (_ ∧ _))

instance (db : PlatformDb) :
    (erasure : Erasure) → Decidable (erasure.Reaches db)
  | .user id => inferInstanceAs (Decidable
      (db.auth.accounts.Finds (.user id) →
        ∀ invite ∈ db.invites.rows, invite.invitedById ≠ some id))
  | .tenant id => inferInstanceAs (Decidable
      (db.auth.accounts.Finds (.tenant id) →
        ∀ member ∈ db.auth.accounts.members id,
          (∀ event ∈ db.auth.audit,
            event.userId = some member → event.tenantId = some id) ∧
          ∀ invite ∈ db.invites.rows,
            invite.invitedById = some member → invite.tenantId = id))

instance (input : PlatformInput) (db : PlatformDb) (erased : Erased)
    (phase : PlatformPhase τ) :
    Decidable (phase.Discreet env input db erased) :=
  decidable_of_iff
    ((∀ reference ∈ phase.recording, reference.Spares erased) ∧
      (∀ invite ∈ phase.inviting env input db,
        (db.createInvite invite).isSome →
          ∀ id ∈ invite.invitedById, id ∉ erased.users) ∧
      ∀ erasure ∈ phase.erasing, erasure.Reaches db)
    ⟨fun ⟨recording, inviting, erasing⟩ => ⟨recording, inviting, erasing⟩,
      fun discreet =>
        ⟨discreet.recording, discreet.inviting, discreet.erasing⟩⟩

instance (state : ErasureState τ) :
    (event : PoolEvent (PlatformRequest τ) PlatformInput) →
      Decidable (StaysDiscreet env state event)
  | .advance index input => inferInstanceAs (Decidable
      (∀ phase ∈ state.1.calls[index]?,
        phase.Discreet env input state.1.data state.2))
  | .start _ => isTrue trivial
  | .abandon _ => isTrue trivial

instance (state : ErasureState τ) :
    (event : PoolEvent (PlatformRequest τ) PlatformInput) →
      Decidable (DrawsNewUser state event)
  | .advance index input => inferInstanceAs (Decidable
      (∀ phase ∈ state.1.calls[index]?,
        ∀ id ∈ phase.creates input, id ∉ state.2.users))
  | .start _ => isTrue trivial
  | .abandon _ => isTrue trivial

end Decidable

/-! ## What takes effect -/

section Commit

variable {tables : PlatformTables} {db after : PlatformDb}

theorem PlatformTables.of_commit
    (committed : tables.commit = some after) :
    after.auth = tables.auth ∧ ∀ invite, invite ∈ after.invites.rows ↔
      invite ∈ tables.invites.rows ∧
        (tables.auth.accounts.tenants.find? invite.tenantId).isSome := by
  unfold PlatformTables.commit at committed
  split at committed
  · obtain rfl := Option.some.inj committed
    refine ⟨rfl, fun invite => ?_⟩
    simp [Table.eraseWhere, Option.isSome_iff_ne_none]
  · contradiction

theorem PlatformTables.commit_of_owned
    (owned : ∀ token ∈ tables.auth.tokens.rows,
      tables.auth.accounts.HasUser token.userId) :
    ∃ after, tables.commit = some after := by
  unfold PlatformTables.commit
  rw [dif_pos owned]
  exact ⟨_, rfl⟩

/-- A statement that runs leaves what it commits. -/
theorem PlatformPhase.data_step
    {env : WorkspaceEnv τ}
    {input : PlatformInput}
    {phase next : PlatformPhase τ}
    (ran : phase.run env input db = some (tables, next)) :
    (phase.step env input db).1 = tables.commit.getD db := by
  simp only [PlatformPhase.step, ran]
  cases tables.commit <;> rfl

/-- No user is added but the created one; and what is named in the trail, or as
the sender of an invite, was named before or is written now. -/
structure PlatformDb.Tells (recording : Option Reference)
    (inviting : Option Invite) (created : Option String)
    (db after : PlatformDb) : Prop where
  users : ∀ id, after.auth.accounts.HasUser id →
    db.auth.accounts.HasUser id ∨ created = some id
  references : ∀ reference ∈ after.auth.references,
    reference ∈ db.auth.references ∨ recording = some reference
  recorded : ∀ reference ∈ recording, reference ∈ after.auth.references
  inviters : ∀ invite ∈ after.invites.rows,
    (∃ old ∈ db.invites.rows, old.invitedById = invite.invitedById) ∨
      inviting = some invite ∧ (db.createInvite invite).isSome
  invited : ∀ invite ∈ inviting, (db.createInvite invite).isSome →
    invite ∈ after.invites.rows

/-- A statement that is not carried out. -/
theorem PlatformDb.Tells.refl (db : PlatformDb) (created : Option String) :
    db.Tells none none created db where
  users := fun _ present => Or.inl present
  references := fun _ named => Or.inl named
  recorded := fun _ isNone => nomatch isNone
  inviters := fun invite present => Or.inl ⟨invite, present, rfl⟩
  invited := fun _ isNone => nomatch isNone

/-- The tenant of an invite that is not refused is stored. -/
theorem InviteDb.tenant_of_createInvite
    {db : InviteDb}
    {invite : Invite}
    (accepted : (db.createInvite invite).isSome) :
    (db.auth.accounts.tenants.find? invite.tenantId).isSome := by
  unfold InviteDb.createInvite at accepted
  split at accepted
  · contradiction
  · rename_i free
    simp only [Bool.or_eq_true, not_or, Option.isNone_iff_eq_none] at free
    exact Option.isSome_iff_ne_none.mpr free.2

/-- What the tables tell is told by what is committed of them. -/
theorem PlatformTables.tells_commit
    {recording : Option Reference}
    {inviting : Option Invite}
    {created : Option String}
    (records : db.auth.Records recording created tables.auth)
    (inviters : ∀ invite ∈ tables.invites.rows,
      (∃ old ∈ db.invites.rows, old.invitedById = invite.invitedById) ∨
        inviting = some invite ∧ (db.createInvite invite).isSome)
    (invited : ∀ invite ∈ inviting, (db.createInvite invite).isSome →
      tables.auth = db.auth ∧ invite ∈ tables.invites.rows) :
    db.Tells recording inviting created (tables.commit.getD db) := by
  have commits : tables.auth.accounts = db.auth.accounts ∧
      tables.auth.tokens = db.auth.tokens → ∃ after,
        tables.commit = some after := by
    rintro ⟨sameAccounts, sameTokens⟩
    apply PlatformTables.commit_of_owned
    rw [sameAccounts, sameTokens]
    exact db.tokensOwned
  cases committed : tables.commit with
  | none =>
      have refused : ¬ ∃ after, tables.commit = some after := by
        simp [committed]
      have noRecord : recording = none := by
        by_contra recorded
        exact refused (commits (records.only recorded))
      subst noRecord
      refine ⟨fun _ present => Or.inl present, fun _ named => Or.inl named,
        fun _ isNone => (nomatch isNone),
        fun invite present => Or.inl ⟨invite, present, rfl⟩, ?_⟩
      intro invite isInvited accepted
      have sameAuth := (invited invite isInvited accepted).1
      exact absurd (commits ⟨congrArg _ sameAuth, congrArg _ sameAuth⟩) refused
  | some after =>
      obtain ⟨sameAuth, invites⟩ := PlatformTables.of_commit committed
      rw [Option.getD_some]
      constructor
      · intro id present
        rw [sameAuth] at present
        exact records.users id present
      · intro reference named
        rw [sameAuth] at named
        exact records.references reference named
      · intro reference isRecorded
        rw [sameAuth]
        exact records.recorded reference isRecorded
      · intro invite present
        exact inviters invite ((invites invite).mp present).1
      · intro invite isInvited accepted
        obtain ⟨unchanged, present⟩ := invited invite isInvited accepted
        refine (invites invite).mpr ⟨present, ?_⟩
        rw [unchanged]
        exact InviteDb.tenant_of_createInvite accepted

end Commit

section Step

variable (env : WorkspaceEnv τ) (input : PlatformInput)

/-- Users that are written keep their ids. -/
theorem hasUser_holdRoles
    {accounts : Accounts}
    {held : User → List Role}
    {id : String}
    (present : (accounts.holdRoles held).HasUser id) :
    accounts.HasUser id := by
  unfold Accounts.HasUser Accounts.holdRoles at present
  rw [Table.find?_mapRows] at present
  simpa [Accounts.HasUser] using present

/-- What a call without phases tells. -/
theorem OtherWrite.records_apply
    {db : PlatformDb}
    {tables : PlatformTables}
    {statement : OtherWrite}
    (applied : statement.apply db = some tables) :
    db.auth.Records (PlatformPhase.write (τ := τ) statement).recording
      ((PlatformPhase.write (τ := τ) statement).creates input) tables.auth ∧
      tables.invites = db.invites := by
  cases statement with
  | record event =>
      obtain rfl := Option.some.inj applied
      exact ⟨.record rfl rfl, rfl⟩
  | sweepAudit kept =>
      simp only [OtherWrite.apply] at applied
      split at applied
      · rename_i fewer
        obtain rfl := Option.some.inj applied
        refine ⟨.unrecorded ?_ fun _ present => Or.inl present, rfl⟩
        intro reference named
        exact (fewer.map AuditEvent.reference).subset named
      · contradiction
  | sweepTokens expired =>
      obtain rfl := Option.some.inj applied
      exact ⟨.withTokens db.auth _, rfl⟩
  | createUser user =>
      obtain ⟨accounts, created, rfl⟩ := Option.map_eq_some_iff.mp applied
      exact ⟨.withAccounts fun id present =>
        hasUser_of_createUser created present, rfl⟩
  | updateUser id write =>
      obtain ⟨accounts, updated, rfl⟩ := Option.map_eq_some_iff.mp applied
      exact ⟨.withAccounts fun other present => Or.inl
        (hasUser_of_updateUser updated write.sameId present), rfl⟩
  | writeRoles roles held =>
      obtain rfl := Option.some.inj applied
      exact ⟨.withAccounts fun id present => Or.inl
        (hasUser_holdRoles present), rfl⟩
  | writeAccounts write =>
      obtain ⟨accounts, written, rfl⟩ := Option.map_eq_some_iff.mp applied
      exact ⟨.withAccounts fun id present => Or.inl
        (hasUser_of_sameUsers (write.sameUsers _ _ written) present), rfl⟩
  | createCredential credential =>
      simp only [OtherWrite.apply, PlatformDb.createCredential] at applied
      split at applied
      · obtain rfl := Option.some.inj applied
        exact ⟨.refl db.auth, rfl⟩
      · contradiction
  | deleteCredentials doomed =>
      obtain rfl := Option.some.inj applied
      exact ⟨.refl db.auth, rfl⟩

/-- What a statement tells that erases nobody. -/
theorem PlatformPhase.tells_step
    {db : PlatformDb}
    {phase : PlatformPhase τ}
    (spares : ∀ erasure ∈ phase.erasing, ¬ db.auth.accounts.Finds erasure) :
    db.Tells phase.recording (phase.inviting env input db)
      (phase.creates input) (phase.step env input db).1 := by
  have sameInvites : ∀ invite ∈ db.invites.rows,
      (∃ old ∈ db.invites.rows, old.invitedById = invite.invitedById) ∨
        none = some invite ∧ (db.createInvite invite).isSome :=
    fun invite present => Or.inl ⟨invite, present, rfl⟩
  cases phase with
  | link phase =>
      rw [PlatformPhase.data_step rfl]
      exact PlatformTables.tells_commit
        (phase.records_step env.toAuthEnv _ db.auth) sameInvites
        fun _ isNone => nomatch isNone
  | lifecycle phase =>
      rw [PlatformPhase.data_step rfl]
      exact PlatformTables.tells_commit
        (phase.records_step input.now input.fresh env.toAuthEnv
          ⟨db.auth, db.roles⟩ spares) sameInvites
        fun _ isNone => nomatch isNone
  | invite phase =>
      rw [PlatformPhase.data_step rfl]
      exact PlatformTables.tells_commit
        (phase.records_step input.now _ input.inviteFresh db.toInviteDb)
        (fun invite present => phase.inviter_step input.now _
          input.inviteFresh db.toInviteDb present)
        fun invite inviting accepted => InvitePhase.invites_step input.now _
          input.inviteFresh db.toInviteDb inviting accepted
  | workspace phase =>
      rw [PlatformPhase.data_step rfl]
      exact PlatformTables.tells_commit
        (phase.records_step env input.toWorkspaceInput db.auth) sameInvites
        fun _ isNone => nomatch isNone
  | passkey phase =>
      rw [PlatformPhase.data_step rfl]
      exact PlatformTables.tells_commit
        (phase.records_step input.now input.fresh env.toPasskeyEnv
          ⟨db.auth, db.credentials, db.credentialIdUnique, db.countersFit⟩)
        sameInvites
        fun _ isNone => nomatch isNone
  | write statement =>
      cases applied : statement.apply db with
      | none =>
          have same : ((PlatformPhase.write statement).step env input db).1 =
              db := by
            simp [PlatformPhase.step, PlatformPhase.run, applied]
          rw [same]
          cases statement with
          | record event => contradiction
          | _ => exact .refl db _
      | some tables =>
          obtain ⟨records, invites⟩ :=
            OtherWrite.records_apply (τ := τ) input applied
          have ran : (PlatformPhase.write (τ := τ) statement).run env input db =
              some (tables, .ended) := by
            simp [PlatformPhase.run, applied]
          rw [PlatformPhase.data_step ran]
          refine PlatformTables.tells_commit records ?_
            fun _ isNone => nomatch isNone
          rw [invites]
          exact sameInvites
  | ended =>
      rw [PlatformPhase.data_step rfl]
      exact PlatformTables.tells_commit (.refl db.auth) sameInvites
        fun _ isNone => nomatch isNone

/-- What a purge does that finds its row. -/
theorem PlatformPhase.erases_step
    {db : PlatformDb}
    {phase : PlatformPhase τ}
    {erasure : Erasure}
    (erasing : phase.erasing = some erasure)
    (finds : db.auth.accounts.Finds erasure) :
    db.auth.Erases erasure (phase.step env input db).1.auth ∧
      ∀ invite, invite ∈ (phase.step env input db).1.invites.rows ↔
        invite ∈ db.invites.rows ∧ erasure ≠ .tenant invite.tenantId := by
  cases phase with
  | lifecycle phase =>
      have erases := phase.erases_step input.now input.fresh env.toAuthEnv
        ⟨db.auth, db.roles⟩ erasing finds
      rw [PlatformPhase.data_step rfl]
      generalize isTables : ({ db.withAuth
          (phase.step env.toAuthEnv input.now input.fresh
            ⟨db.auth, db.roles⟩).1.auth with
        roles := (phase.step env.toAuthEnv input.now input.fresh
          ⟨db.auth, db.roles⟩).1.roles } : PlatformTables) = tables
      have isAuth : tables.auth = (phase.step env.toAuthEnv input.now
          input.fresh ⟨db.auth, db.roles⟩).1.auth := by
        rw [← isTables]
        rfl
      have isInvites : tables.invites = db.invites := by
        rw [← isTables]
        rfl
      rw [← isAuth] at erases
      obtain ⟨after, committed⟩ :=
        PlatformTables.commit_of_owned erases.tokens
      obtain ⟨sameAuth, invites⟩ := PlatformTables.of_commit committed
      rw [committed, Option.getD_some, sameAuth]
      refine ⟨erases, fun invite => ?_⟩
      rw [invites, isInvites, erases.tenants]
      constructor
      · rintro ⟨present, _, spared⟩
        exact ⟨present, spared⟩
      · rintro ⟨present, spared⟩
        exact ⟨present, db.invitesOwned invite present, spared⟩
  | _ => contradiction

end Step

/-! ## Erasure is complete -/

/-- Erasure is complete, and nobody erased is stored. -/
structure PlatformDb.Intact (db : PlatformDb) (erased : Erased) : Prop where
  forgets : db.Forgets erased
  gone : ∀ id ∈ erased.users, ¬ db.auth.accounts.HasUser id

section Forgets

variable {db after : PlatformDb} {erased : Erased}

/-- Foreign keys see to the other tables. -/
theorem PlatformDb.forgets_iff
    (gone : ∀ id ∈ erased.users, ¬ db.auth.accounts.HasUser id) :
    db.Forgets erased ↔
      (∀ reference ∈ db.auth.references, reference.Spares erased) ∧
        ∀ invite ∈ db.invites.rows,
          ∀ id ∈ invite.invitedById, id ∉ erased.users := by
  constructor
  · intro forgets
    refine ⟨?_, forgets.invites⟩
    intro reference named
    obtain ⟨event, present, rfl⟩ := List.mem_map.mp named
    exact ⟨forgets.audit event present, forgets.tenants event present⟩
  · rintro ⟨references, invites⟩
    have spares : ∀ event ∈ db.auth.audit, event.reference.Spares erased :=
      fun event present => references _ (List.mem_map_of_mem present)
    refine
      { audit := fun event present => (spares event present).1
        invites := invites
        userRoles := ?_
        tokens := fun token present isErased =>
          gone _ isErased (db.tokensOwned token present)
        credentials := fun credential present isErased =>
          gone _ isErased (db.credentialsOwned credential present)
        tenants := fun event present => (spares event present).2 }
    intro row present isErased
    obtain ⟨user, isRow, held⟩ := List.mem_flatMap.mp present
    obtain ⟨role, _, rfl⟩ := List.mem_map.mp held
    exact gone user.id isErased (Option.isSome_of_eq_some
      (db.auth.accounts.users.find?_of_mem isRow))

/-- Where nobody is erased, nobody who has been may be written about. -/
theorem PlatformDb.Tells.forgets_iff
    {recording : Option Reference}
    {inviting : Option Invite}
    {created : Option String}
    (tells : db.Tells recording inviting created after)
    (intact : db.Intact erased)
    (new : ∀ id ∈ created, id ∉ erased.users) :
    (∀ id ∈ erased.users, ¬ after.auth.accounts.HasUser id) ∧
      (after.Forgets erased ↔
        (∀ reference ∈ recording, reference.Spares erased) ∧
          ∀ invite ∈ inviting, (db.createInvite invite).isSome →
            ∀ id ∈ invite.invitedById, id ∉ erased.users) := by
  have gone : ∀ id ∈ erased.users, ¬ after.auth.accounts.HasUser id := by
    intro id isErased present
    rcases tells.users id present with before | isCreated
    · exact intact.gone id isErased before
    · exact new id isCreated isErased
  obtain ⟨references, invites⟩ :=
    (PlatformDb.forgets_iff intact.gone).mp intact.forgets
  refine ⟨gone, ?_⟩
  rw [PlatformDb.forgets_iff gone]
  constructor
  · rintro ⟨trail, senders⟩
    exact ⟨fun reference isRecorded =>
        trail reference (tells.recorded reference isRecorded),
      fun invite isInvited accepted =>
        senders invite (tells.invited invite isInvited accepted)⟩
  · rintro ⟨recorded, invited⟩
    constructor
    · intro reference named
      rcases tells.references reference named with before | isRecorded
      · exact references reference before
      · exact recorded reference isRecorded
    · intro invite present
      rcases tells.inviters invite present with
        ⟨old, before, same⟩ | ⟨isInvited, accepted⟩
      · rw [← same]
        exact invites old before
      · exact invited invite isInvited accepted

section Purge

variable {erasure : Erasure} {accounts : Accounts}

theorem Erased.mem_users_add
    (finds : accounts.Finds erasure)
    (id : String) :
    id ∈ (erased.add accounts erasure).users ↔
      id ∈ erased.users ∨ id ∈ accounts.erased erasure := by
  simp [Erased.add, finds]

theorem Erased.mem_tenants_add
    (finds : accounts.Finds erasure)
    (id : String) :
    id ∈ (erased.add accounts erasure).tenants ↔
      id ∈ erased.tenants ∨ erasure = .tenant id := by
  cases erasure <;> simp [Erased.add, finds, eq_comm]

/-- An erased user that a redacted reference names was named before, and not in
the tenant that is erased. -/
theorem Erasure.named_of_redact
    {old reference : Reference}
    (redacted : erasure.redact old = some reference) :
    (∀ id ∈ reference.userId, old.userId = some id ∧ erasure ≠ .user id) ∧
      reference.tenantId = old.tenantId ∧
      ∀ id ∈ reference.tenantId, erasure ≠ .tenant id := by
  cases erasure with
  | user id =>
      obtain rfl := Option.some.inj redacted
      split
      · refine ⟨fun _ isNone => ?_, rfl, fun _ _ isTenant => ?_⟩
        · cases isNone
        · cases isTenant
      · rename_i other
        refine ⟨fun named isNamed => ⟨isNamed, ?_⟩, rfl, fun _ _ isTenant => ?_⟩
        · rintro ⟨⟩
          exact other isNamed
        · cases isTenant
  | tenant id =>
      simp only [Erasure.redact] at redacted
      split at redacted
      · contradiction
      · rename_i outside
        obtain rfl := Option.some.inj redacted
        refine ⟨fun named isNamed => ⟨isNamed, fun isUser => ?_⟩, rfl, ?_⟩
        · cases isUser
        · rintro named isNamed ⟨⟩
          exact outside isNamed

/-- What a purge has to reach is what it would leave behind. -/
theorem AuthDb.Erases.reaches_iff
    (erases : db.auth.Erases erasure after.auth)
    (invites : ∀ invite, invite ∈ after.invites.rows ↔
      invite ∈ db.invites.rows ∧ erasure ≠ .tenant invite.tenantId)
    (finds : db.auth.accounts.Finds erasure) :
    erasure.Reaches db ↔ ∀ id ∈ db.auth.accounts.erased erasure,
      (∀ reference ∈ after.auth.references, reference.userId ≠ some id) ∧
        ∀ invite ∈ after.invites.rows, invite.invitedById ≠ some id := by
  have redacted : ∀ reference ∈ after.auth.references,
      ∃ event ∈ db.auth.audit,
        erasure.redact event.reference = some reference := by
    intro reference named
    rw [erases.references] at named
    obtain ⟨_, before, isRedacted⟩ := List.mem_filterMap.mp named
    obtain ⟨event, present, rfl⟩ := List.mem_map.mp before
    exact ⟨event, present, isRedacted⟩
  cases erasure with
  | user id =>
      constructor
      · rintro reaches other isErased
        obtain rfl := List.mem_singleton.mp isErased
        refine ⟨fun reference named isNamed => ?_, fun invite present =>
          reaches finds invite ((invites invite).mp present).1⟩
        obtain ⟨event, _, isRedacted⟩ := redacted reference named
        exact ((Erasure.named_of_redact isRedacted).1 other isNamed).2 rfl
      · intro unnamed _ invite present
        exact (unnamed id (List.mem_singleton_self id)).2 invite
          ((invites invite).mpr ⟨present, nofun⟩)
  | tenant id =>
      constructor
      · intro reaches member isMember
        obtain ⟨trail, senders⟩ := reaches finds member isMember
        constructor
        · intro reference named isNamed
          obtain ⟨event, present, isRedacted⟩ := redacted reference named
          obtain ⟨users, sameTenant, outside⟩ :=
            Erasure.named_of_redact isRedacted
          have inTenant := trail event present (users member isNamed).1
          exact outside id (sameTenant.trans inTenant) rfl
        · intro invite present isSender
          obtain ⟨before, outside⟩ := (invites invite).mp present
          exact outside (congrArg _ (senders invite before isSender).symm)
      · intro unnamed _ member isMember
        obtain ⟨trail, senders⟩ := unnamed member isMember
        constructor
        · intro event present isNamed
          by_contra outside
          refine trail event.reference ?_ isNamed
          rw [erases.references]
          refine List.mem_filterMap.mpr
            ⟨event.reference, List.mem_map_of_mem present, ?_⟩
          exact if_neg outside
        · intro invite present isSender
          by_contra outside
          refine senders invite ((invites invite).mpr ⟨present, ?_⟩) isSender
          rintro ⟨⟩
          exact outside rfl

/-- A purge leaves nobody named exactly if it reaches what names them. -/
theorem AuthDb.Erases.forgets_iff
    (erases : db.auth.Erases erasure after.auth)
    (invites : ∀ invite, invite ∈ after.invites.rows ↔
      invite ∈ db.invites.rows ∧ erasure ≠ .tenant invite.tenantId)
    (finds : db.auth.accounts.Finds erasure)
    (intact : db.Intact erased) :
    (∀ id ∈ (erased.add db.auth.accounts erasure).users,
      ¬ after.auth.accounts.HasUser id) ∧
      (after.Forgets (erased.add db.auth.accounts erasure) ↔
        erasure.Reaches db) := by
  have gone : ∀ id ∈ (erased.add db.auth.accounts erasure).users,
      ¬ after.auth.accounts.HasUser id := by
    intro id isErased present
    obtain ⟨before, spared⟩ := erases.users id present
    rcases (Erased.mem_users_add finds id).mp isErased with already | now
    · exact intact.gone id already before
    · exact spared now
  refine ⟨gone, ?_⟩
  obtain ⟨trail, senders⟩ :=
    (PlatformDb.forgets_iff intact.gone).mp intact.forgets
  rw [PlatformDb.forgets_iff gone, erases.reaches_iff invites finds]
  constructor
  · rintro ⟨references, inviters⟩ id isErased
    have noted : id ∈ (erased.add db.auth.accounts erasure).users :=
      (Erased.mem_users_add finds id).mpr (Or.inr isErased)
    exact ⟨fun reference named isNamed =>
        (references reference named).1 id isNamed noted,
      fun invite present isSender =>
        inviters invite present id isSender noted⟩
  · intro unnamed
    constructor
    · intro reference named
      have inTrail := named
      rw [erases.references] at inTrail
      obtain ⟨old, before, redacted⟩ := List.mem_filterMap.mp inTrail
      obtain ⟨users, sameTenant, outside⟩ := Erasure.named_of_redact redacted
      constructor
      · intro id isNamed isErased
        rcases (Erased.mem_users_add finds id).mp isErased with already | now
        · exact (trail old before).1 id (users id isNamed).1 already
        · exact (unnamed id now).1 reference named isNamed
      · intro id isNamed isErased
        rcases (Erased.mem_tenants_add finds id).mp isErased with already | now
        · exact (trail old before).2 id (sameTenant ▸ isNamed) already
        · exact outside id isNamed now
    · intro invite present id isSender isErased
      rcases (Erased.mem_users_add finds id).mp isErased with already | now
      · exact senders invite ((invites invite).mp present).1 id isSender already
      · exact (unnamed id now).2 invite present isSender

end Purge

end Forgets

section Run

variable (env : WorkspaceEnv τ)

/-- A purge neither records nor invites. -/
theorem PlatformPhase.silent_of_erasing
    (input : PlatformInput)
    (db : PlatformDb)
    {phase : PlatformPhase τ}
    {erasure : Erasure}
    (erasing : phase.erasing = some erasure) :
    phase.recording = none ∧ phase.inviting env input db = none := by
  cases phase with
  | lifecycle phase =>
      cases phase with
      | console phase =>
          cases phase with
          | purge user => exact ⟨rfl, rfl⟩
          | purgeTenant tenant => exact ⟨rfl, rfl⟩
          | _ => contradiction
      | _ => contradiction
  | _ => contradiction

/-- After a statement erasure is complete exactly if the statement was
discreet. -/
theorem PlatformPhase.forgets_step_iff
    (index : Nat)
    (input : PlatformInput)
    {db : PlatformDb}
    {erased : Erased}
    {phase : PlatformPhase τ}
    (intact : db.Intact erased)
    (new : ∀ id ∈ phase.creates input, id ∉ erased.users) :
    (∀ id ∈ (noteErased erased index input db phase).users,
      ¬ (phase.step env input db).1.auth.accounts.HasUser id) ∧
      ((phase.step env input db).1.Forgets
          (noteErased erased index input db phase) ↔
        phase.Discreet env input db erased) := by
  by_cases spares : ∀ erasure ∈ phase.erasing, ¬ db.auth.accounts.Finds erasure
  · have unnoted : noteErased erased index input db phase = erased := by
      unfold noteErased
      split
      · rename_i erasure erasing
        exact if_neg (spares erasure erasing)
      · rfl
    have reaches : ∀ erasure ∈ phase.erasing, erasure.Reaches db := by
      intro erasure erasing
      cases erasure with
      | user id => exact fun finds => absurd finds (spares _ erasing)
      | tenant id => exact fun finds => absurd finds (spares _ erasing)
    obtain ⟨gone, forgets⟩ :=
      (phase.tells_step env input spares).forgets_iff intact new
    rw [unnoted, forgets]
    refine ⟨gone, ?_⟩
    constructor
    · rintro ⟨recording, inviting⟩
      exact ⟨recording, inviting, reaches⟩
    · intro discreet
      exact ⟨discreet.recording, discreet.inviting⟩
  · simp only [not_forall, not_not] at spares
    obtain ⟨erasure, erasing, finds⟩ := spares
    have isErasing : phase.erasing = some erasure := erasing
    have noted : noteErased erased index input db phase =
        erased.add db.auth.accounts erasure := by
      simp [noteErased, isErasing]
    obtain ⟨erases, invites⟩ := phase.erases_step env input isErasing finds
    obtain ⟨gone, forgets⟩ := erases.forgets_iff invites finds intact
    obtain ⟨unrecorded, uninvited⟩ :=
      phase.silent_of_erasing env input db isErasing
    rw [noted, forgets]
    refine ⟨gone, ?_⟩
    constructor
    · intro reaches
      refine ⟨?_, ?_, ?_⟩
      · intro reference isRecorded
        rw [unrecorded] at isRecorded
        contradiction
      · intro invite isInvited
        rw [uninvited] at isInvited
        contradiction
      · intro other isOther
        obtain rfl := Option.some.inj (isErasing.symm.trans isOther)
        exact reaches
    · intro discreet
      exact discreet.erasing erasure isErasing

/-- The same for an event. -/
theorem forgets_watch_iff
    {state next : ErasureState τ}
    {event : PoolEvent (PlatformRequest τ) PlatformInput}
    (intact : state.1.data.Intact state.2)
    (new : DrawsNewUser state event)
    (stepped : watchedErasure env state event = some next) :
    (∀ id ∈ next.2.users, ¬ next.1.data.auth.accounts.HasUser id) ∧
      (next.1.data.Forgets next.2 ↔ StaysDiscreet env state event) := by
  obtain ⟨pool, erased⟩ := state
  simp only [watchedErasure, Program.watch, Option.map_eq_some_iff] at stepped
  obtain ⟨moved, poolStepped, rfl⟩ := stepped
  cases event with
  | start request =>
      simp only [Program.poolStep, Option.some.injEq] at poolStepped
      subst poolStepped
      exact ⟨intact.gone, iff_of_true intact.forgets trivial⟩
  | advance index input =>
      simp only [Program.poolStep, Option.map_eq_some_iff] at poolStepped
      obtain ⟨phase, present, rfl⟩ := poolStepped
      have noted : Program.note noteErased pool erased
          (.advance index input : PoolEvent (PlatformRequest τ) PlatformInput) =
            noteErased erased index input pool.data phase := by
        simp [Program.note, present]
      obtain ⟨gone, forgets⟩ :=
        phase.forgets_step_iff env index input intact (new phase present)
      rw [noted]
      refine ⟨gone, forgets.trans ?_⟩
      constructor
      · intro discreet other isOther
        obtain rfl := Option.some.inj (present.symm.trans isOther)
        exact discreet
      · intro discreet
        exact discreet phase present
  | abandon index =>
      simp only [Program.poolStep, Option.map_eq_some_iff] at poolStepped
      obtain ⟨phase, _, rfl⟩ := poolStepped
      exact ⟨intact.gone, iff_of_true intact.forgets trivial⟩

variable {env}

/-- Erasure is complete in every state of a run exactly if every step of it is
discreet. -/
theorem erasure_complete_iff
    {db : PlatformDb}
    {final : ErasureState τ}
    {events : List (PoolEvent (PlatformRequest τ) PlatformInput)}
    (run : Run (watchedErasure env) DrawsNewUser (⟨db, []⟩, .nobody) events
      final) :
    Run (watchedErasure env) (fun state event =>
        DrawsNewUser state event ∧ StaysDiscreet env state event)
        (⟨db, []⟩, .nobody) events final ↔
      ∀ handled reached, handled <+: events →
        Run (watchedErasure env) DrawsNewUser (⟨db, []⟩, .nobody) handled
          reached → reached.1.data.Forgets reached.2 := by
  have nobody : ∀ id ∈ Erased.nobody.users,
      ¬ db.auth.accounts.HasUser id := by
    intro id isErased
    contradiction
  have implies : ∀ state : ErasureState τ,
      state.1.data.Intact state.2 → state.1.data.Forgets state.2 :=
    fun _ intact => intact.forgets
  refine run.meets_iff_throughout implies ?_ ?_ ?_
  · intro state event next intact new discreet stepped
    obtain ⟨gone, forgets⟩ := forgets_watch_iff env intact new stepped
    exact ⟨forgets.mpr discreet, gone⟩
  · intro state event next intact new stepped
    exact (forgets_watch_iff env intact new stepped).2.mp
  · refine ⟨(PlatformDb.forgets_iff nobody).mpr ⟨?_, ?_⟩, nobody⟩
    · intro reference _
      exact ⟨fun _ _ => List.not_mem_nil, fun _ _ => List.not_mem_nil⟩
    · intro invite _ id _
      exact List.not_mem_nil

end Run

/-! ## A workspace with one admin -/

/-- Surroundings in which no app is enabled for a new workspace. -/
def plainPlatform : WorkspaceEnv Payload where
  toPasskeyEnv := lengthEnv
  signupMode := .opened
  trialDays := 14
  autoEnroll := fun _ => false

/-- A database without rows. -/
def emptyPlatform : PlatformDb where
  auth := { demoSessions .empty with
    accounts :=
      { tenants := .empty
        apps := .empty
        appTenants := .empty
        users := .empty
        addressUnique := Accounts.empty.addressUnique
        clientIdGiven := Accounts.empty.clientIdGiven
        clientIdUnique := Accounts.empty.clientIdUnique
        subscriptionUnique := Accounts.empty.subscriptionUnique
        references := Accounts.empty.references } }
  invites := .empty
  tokenHashUnique := InviteDb.tokenHashUnique_empty
  roles := .empty
  credentials := .empty
  credentialIdUnique := PasskeyDb.credentialIdUnique_empty
  countersFit := PasskeyDb.countersFit_empty
  tokensOwned := by simp [Tokens.empty, demoSessions]
  credentialsOwned := by simp [Table.empty]
  invitesOwned := by simp [Table.empty]

/-- A call, statement by statement, with the id that it draws. -/
def platformCall (index count : Nat) (draw : String)
    (request : PlatformRequest Payload) :
    List (PoolEvent (PlatformRequest Payload) PlatformInput) :=
  .start request :: List.replicate count (.advance index
    ⟨⟨1000, ⟨draw, "", ""⟩, draw, "", true⟩, draw⟩)

/-- A workspace is created, and a tenant admin. -/
def acmeCreated : List (PoolEvent (PlatformRequest Payload) PlatformInput) :=
  platformCall 0 4 "t1" (.workspace (.create ⟨"acme", "Acme", none⟩)) ++
    platformCall 1 1 "u1" (.write (.createUser
      { demoUser with tenantId := some "t1", isTenantAdmin := true })) ++
    platformCall 2 1 "" (.write (.record
      ⟨"user.created", some "t1", some "u1", none, none, .none⟩))

/-- The admin is removed and purged. -/
def adminPurged (index : Nat) :
    List (PoolEvent (PlatformRequest Payload) PlatformInput) :=
  platformCall index 3 "" (.lifecycle (.user .remove "u1")) ++
    platformCall (index + 1) 3 "" (.lifecycle (.user .purge "u1"))

/-- An admin is purged who has invited nobody. -/
theorem erasure_complete_admin :
    ∃ final, Run (watchedErasure plainPlatform) (fun state event =>
        DrawsNewUser state event ∧ StaysDiscreet plainPlatform state event)
        (⟨emptyPlatform, []⟩, .nobody) (acmeCreated ++ adminPurged 3) final ∧
      final.2.users = ["u1"] ∧ final.1.data.Forgets final.2 := by
  obtain ⟨final, run, erased⟩ := Run.exists_of_execute
    (watchedErasure plainPlatform)
    (fun state event => decide
      (DrawsNewUser state event ∧ StaysDiscreet plainPlatform state event))
    (fun _ _ passed => of_decide_eq_true passed)
    (⟨emptyPlatform, []⟩, .nobody) (acmeCreated ++ adminPurged 3)
    (fun state => state.2.users = ["u1"])
    (by decide +kernel)
  have drawn := run.mono fun _ _ both => both.1
  exact ⟨final, run, of_decide_eq_true erased,
    (erasure_complete_iff drawn).mp run _ final List.prefix_rfl drawn⟩

/-- The invite of a purged admin names its sender, and the trail of a purged
workspace the admin who was removed from it before. -/
theorem purges_leaveNames :
    (∃ final, Run (watchedErasure plainPlatform) DrawsNewUser
        (⟨emptyPlatform, []⟩, .nobody)
        (acmeCreated ++
          platformCall 3 5 "i1"
            (.invite (.create ⟨"t1", "u1"⟩ ⟨"c@d.co", none, none⟩)) ++
          adminPurged 4) final ∧
      final.2.users = ["u1"] ∧ ¬ final.1.data.Forgets final.2) ∧
      ∃ final, Run (watchedErasure plainPlatform) DrawsNewUser
        (⟨emptyPlatform, []⟩, .nobody)
        (acmeCreated ++
          platformCall 3 3 "" (.lifecycle (.user .remove "u1")) ++
          platformCall 4 3 "" (.lifecycle (.tenant .remove "t1")) ++
          platformCall 5 3 "" (.lifecycle (.tenant .purge "t1"))) final ∧
      final.2.users = ["u1"] ∧ final.2.tenants = ["t1"] ∧
      ¬ final.1.data.Forgets final.2 := by
  constructor
  · obtain ⟨final, run, ends⟩ := Run.exists_of_execute
      (watchedErasure plainPlatform)
      (fun state event => decide (DrawsNewUser state event))
      (fun _ _ passed => of_decide_eq_true passed)
      (⟨emptyPlatform, []⟩, .nobody)
      (acmeCreated ++
        platformCall 3 5 "i1"
          (.invite (.create ⟨"t1", "u1"⟩ ⟨"c@d.co", none, none⟩)) ++
        adminPurged 4)
      (fun state => decide (state.2.users = ["u1"] ∧
        ∃ invite ∈ state.1.data.invites.rows, invite.invitedById = some "u1"))
      (by decide +kernel)
    obtain ⟨erased, invite, present, sender⟩ := of_decide_eq_true ends
    refine ⟨final, run, erased, fun forgets => ?_⟩
    refine forgets.invites invite present "u1" sender ?_
    rw [erased]
    exact List.mem_singleton_self _
  · obtain ⟨final, run, ends⟩ := Run.exists_of_execute
      (watchedErasure plainPlatform)
      (fun state event => decide (DrawsNewUser state event))
      (fun _ _ passed => of_decide_eq_true passed)
      (⟨emptyPlatform, []⟩, .nobody)
      (acmeCreated ++
        platformCall 3 3 "" (.lifecycle (.user .remove "u1")) ++
        platformCall 4 3 "" (.lifecycle (.tenant .remove "t1")) ++
        platformCall 5 3 "" (.lifecycle (.tenant .purge "t1")))
      (fun state => decide (state.2.users = ["u1"] ∧ state.2.tenants = ["t1"] ∧
        ∃ event ∈ state.1.data.auth.audit, event.userId = some "u1"))
      (by decide +kernel)
    obtain ⟨erased, tenants, event, present, named⟩ := of_decide_eq_true ends
    refine ⟨final, run, erased, tenants, fun forgets => ?_⟩
    refine forgets.audit event present "u1" named ?_
    rw [erased]
    exact List.mem_singleton_self _

end Auth
end EvoPlatform
