import EvoPlatform.Auth.Invites
import EvoPlatform.Auth.ResetLinks
import EvoPlatform.Auth.Workspaces

/-!
# What a statement writes about users

The audit trail names users and tenants without a foreign key.  For each call it
is said which two ids its next statement records, if it records an event, and
which user it creates.  Only the two purges do more to the users or to the
trail.
-/

namespace EvoPlatform
namespace Auth

variable {τ : Type}

/-- The columns of an audit event that name a user and a tenant. -/
structure Reference where
  userId : Option String
  tenantId : Option String
  deriving DecidableEq

def AuditEvent.reference (event : AuditEvent) : Reference :=
  ⟨event.userId, event.tenantId⟩

/-- What the audit trail names, event by event. -/
def AuthDb.references (db : AuthDb) : List Reference :=
  db.audit.map AuditEvent.reference

/-- A user is stored. -/
def Accounts.HasUser (accounts : Accounts) (id : String) : Prop :=
  (accounts.users.find? id).isSome

instance (accounts : Accounts) (id : String) :
    Decidable (accounts.HasUser id) :=
  inferInstanceAs (Decidable ((accounts.users.find? id).isSome = true))

/-! ## What the next statement of a call records -/

/-- What the session calls record. -/
def Phase.recording : Phase → Option Reference
  | .recordReuse stored tenantId _ => some ⟨some stored.userId, tenantId⟩
  | .recordLogin grant _ _ =>
      some ⟨some grant.user.id, grant.tenant.map Tenant.id⟩
  | .recordReset user => some ⟨some user.id, user.tenantId⟩
  | .recordSessions update _ _ | .recordEmail update _ _ =>
      some ⟨some update.existing.id, update.existing.tenantId⟩
  | _ => none

def LinkPhase.recording : LinkPhase → Option Reference
  | .recordRequest _ user => some ⟨some user.id, user.tenantId⟩
  | .session _ phase => phase.recording
  | _ => none

def PasskeyPhase.recording : PasskeyPhase τ → Option Reference
  | .signIn phase => phase.recording
  | _ => none

/-- The removal of a user is recorded without the tenant, its purge and that of
a tenant without the user. -/
def AdminPhase.recording : AdminPhase → Option Reference
  | .update phase => phase.recording
  | .recordDeleted id _ => some ⟨some id, none⟩
  | .recordPurged user => some ⟨none, user.tenantId⟩
  | .recordTenantDeleted id _ => some ⟨none, some id⟩
  | .recordTenantPurged .. => some ⟨none, none⟩
  | .recordCreated tenantId actorId _ _ => some ⟨some actorId, some tenantId⟩
  | .recordMember _ scope _ => some ⟨some scope.actorId, some scope.tenantId⟩
  | _ => none

def LifecyclePhase.recording : LifecyclePhase → Option Reference
  | .console phase => phase.recording
  | .recordTenantRestored id _ => some ⟨none, some id⟩
  | .recordApp .. | .recordAppPurged .. => some ⟨none, none⟩
  | _ => none

def InvitePhase.recording : InvitePhase → Option Reference
  | .recordInvite _ caller _ _ =>
      some ⟨some caller.actorId, some caller.tenantId⟩
  | .recordAccepted acceptance userId =>
      some ⟨some userId, some acceptance.invite.tenantId⟩
  | _ => none

def WorkspacePhase.recording : WorkspacePhase τ → Option Reference
  | .recordCreated tenant => some ⟨none, some tenant.id⟩
  | .recordSent _ founder => some ⟨some founder.id, founder.tenantId⟩
  | .recordSignup signedUp => some ⟨none, some signedUp.tenant.id⟩
  | _ => none

/-- The invite that the next statement of a call creates. -/
def InvitePhase.inviting (env : AdminEnv) (now : Nat) (fresh : InviteFresh) :
    InvitePhase → Option Invite
  | .createInvite draft roleIds => some (draft.invite env now fresh roleIds)
  | _ => none

/-! ## Which user it creates or erases -/

def AdminPhase.creates (fresh : Fresh) : AdminPhase → Option String
  | .createMember .. => some fresh.id
  | _ => none

def LifecyclePhase.creates (fresh : Fresh) : LifecyclePhase → Option String
  | .console phase => phase.creates fresh
  | _ => none

def InvitePhase.creates (fresh : InviteFresh) : InvitePhase → Option String
  | .acceptTransaction .. => some fresh.id
  | _ => none

def WorkspacePhase.creates (input : WorkspaceInput) :
    WorkspacePhase τ → Option String
  | .transaction .. => some input.userId
  | _ => none

/-- What a purge erases: a user, or a tenant with its users. -/
inductive Erasure
  | user (id : String)
  | tenant (id : String)
  deriving DecidableEq

def AdminPhase.erasing : AdminPhase → Option Erasure
  | .purge user => some (.user user.id)
  | .purgeTenant tenant => some (.tenant tenant.id)
  | _ => none

def LifecyclePhase.erasing : LifecyclePhase → Option Erasure
  | .console phase => phase.erasing
  | _ => none

/-- The row that a purge deletes is there. -/
def Accounts.Finds (accounts : Accounts) : Erasure → Prop
  | .user id => accounts.HasUser id
  | .tenant id => (accounts.tenants.find? id).isSome

instance Accounts.decidableFinds (accounts : Accounts) :
    (erasure : Erasure) → Decidable (accounts.Finds erasure)
  | .user id => inferInstanceAs (Decidable (accounts.HasUser id))
  | .tenant id =>
      inferInstanceAs (Decidable ((accounts.tenants.find? id).isSome = true))

/-- The ids of the users of a tenant. -/
def Accounts.members (accounts : Accounts) (tenantId : String) : List String :=
  (accounts.users.rows.filter fun user => user.tenantId = some tenantId).map
    User.id

/-- The ids of the users that a purge deletes. -/
def Accounts.erased (accounts : Accounts) : Erasure → List String
  | .user id => [id]
  | .tenant id => accounts.members id

/-- What a purge leaves of what an audit event names. -/
def Erasure.redact : Erasure → Reference → Option Reference
  | .user id, reference =>
      some (if reference.userId = some id then { reference with userId := none }
        else reference)
  | .tenant id, reference =>
      if reference.tenantId = some id then none else some reference

/-! ## What a statement does -/

/-- No user is added but the created one, and what the trail names in addition
is recorded.  Whoever records writes nothing else. -/
structure AuthDb.Records (recording : Option Reference)
    (created : Option String) (before after : AuthDb) : Prop where
  users : ∀ id, after.accounts.HasUser id →
    before.accounts.HasUser id ∨ created = some id
  references : ∀ reference ∈ after.references,
    reference ∈ before.references ∨ recording = some reference
  recorded : ∀ reference ∈ recording, reference ∈ after.references
  only : recording ≠ none →
    after.accounts = before.accounts ∧ after.tokens = before.tokens

namespace AuthDb.Records

variable {db after : AuthDb} {created : Option String}

/-- Nothing is recorded. -/
theorem unrecorded
    (references : ∀ reference ∈ after.references, reference ∈ db.references)
    (users : ∀ id, after.accounts.HasUser id →
      db.accounts.HasUser id ∨ created = some id) :
    db.Records none created after :=
  ⟨users, fun reference named => Or.inl (references reference named),
    fun _ isNone => (nomatch isNone), absurd rfl⟩

theorem refl (db : AuthDb) : db.Records none created db :=
  unrecorded (fun _ named => named) fun _ present => Or.inl present

theorem record
    {event : AuditEvent}
    {reference : Reference}
    (recorded : after = db.record event)
    (names : event.reference = reference) :
    db.Records (some reference) created after := by
  subst recorded names
  have appended : (db.record event).references =
      db.references ++ [event.reference] := List.map_append
  refine ⟨fun _ present => Or.inl present, ?_, ?_, fun _ => ⟨rfl, rfl⟩⟩
  · intro other named
    rw [appended, List.mem_append, List.mem_singleton] at named
    exact named.imp_right fun same => congrArg some same.symm
  · rintro _ ⟨⟩
    rw [appended]
    exact List.mem_append_right _ (List.mem_singleton_self _)

/-- Accounts are written. -/
theorem withAccounts
    {accounts : Accounts}
    (users : ∀ id, accounts.HasUser id →
      db.accounts.HasUser id ∨ created = some id) :
    db.Records none created (db.withAccounts accounts) :=
  unrecorded (fun _ named => named) users

/-- Tokens are written. -/
theorem withTokens (db : AuthDb) (tokens : Tokens) :
    db.Records none created { db with tokens := tokens } :=
  unrecorded (fun _ named => named) fun _ present => Or.inl present

end AuthDb.Records

section Users

variable {accounts after : Accounts} {id : String}

theorem hasUser_of_updateUser
    {written : String}
    {change : User → User}
    (updated : accounts.updateUser written change = some after)
    (sameId : ∀ user, (change user).id = user.id)
    (present : after.HasUser id) :
    accounts.HasUser id := by
  obtain ⟨_, _, users⟩ := Accounts.users_of_updateUser sameId updated
  unfold Accounts.HasUser at present ⊢
  rw [users] at present
  split at present
  · rename_i same
    rw [same]
    simpa using present
  · exact present

theorem hasUser_of_createUser
    {user : User}
    (created : accounts.createUser user = some after)
    (present : after.HasUser id) :
    accounts.HasUser id ∨ some user.id = some id := by
  obtain ⟨_, _, users⟩ := Accounts.users_of_createUser created
  unfold Accounts.HasUser at present ⊢
  rw [users] at present
  split at present
  · rename_i same
    exact Or.inr (congrArg some same.symm)
  · exact Or.inl present

theorem users_of_updateTenant
    {written : String}
    {change : Tenant → Tenant}
    (updated : accounts.updateTenant written change = some after) :
    after.users = accounts.users := by
  simp only [Accounts.updateTenant, Option.map_eq_some_iff] at updated
  obtain ⟨_, _, rfl⟩ := updated
  rfl

theorem users_of_markApp
    {written : String}
    {deletedAt : Option Nat}
    (marked : accounts.markApp written deletedAt = some after) :
    after.users = accounts.users := by
  unfold Accounts.markApp at marked
  split at marked
  · contradiction
  · obtain rfl := Option.some.inj marked
    rfl

theorem hasUser_eraseApp_iff (app : App) :
    (accounts.eraseApp app).HasUser id ↔ accounts.HasUser id := by
  unfold Accounts.HasUser Accounts.eraseApp
  rw [Table.find?_mapRows]
  simp

theorem users_of_createTenant
    {tenant : Tenant}
    (created : accounts.createTenant tenant = some after) :
    after.users = accounts.users := by
  unfold Accounts.createTenant at created
  split at created
  · contradiction
  · obtain rfl := Option.some.inj created
    rfl

theorem users_of_createEnablement
    {enablement : AppTenant}
    (created : accounts.createEnablement enablement = some after) :
    after.users = accounts.users := by
  unfold Accounts.createEnablement at created
  split at created
  · obtain rfl := Option.some.inj created
    rfl
  · contradiction

theorem users_of_enroll
    {tenantId plan : String}
    {appIds : List String}
    (enrolled : Accounts.enroll tenantId plan appIds accounts = some after) :
    after.users = accounts.users := by
  induction appIds generalizing accounts with
  | nil =>
      obtain rfl := Option.some.inj enrolled
      rfl
  | cons appId appIds inductionHypothesis =>
      simp only [Accounts.enroll, Option.bind_eq_some_iff] at enrolled
      obtain ⟨middle, created, rest⟩ := enrolled
      exact (inductionHypothesis rest).trans (users_of_createEnablement created)

/-- The same users are there. -/
theorem hasUser_of_sameUsers
    (same : after.users = accounts.users)
    (present : after.HasUser id) :
    accounts.HasUser id := by
  unfold Accounts.HasUser at present ⊢
  rw [← same]
  exact present

end Users

/-! ## What a purge does -/

/-- The users and the tenant are gone, with the tokens of the users, and the
trail is redacted. -/
structure AuthDb.Erases (erasure : Erasure) (before after : AuthDb) : Prop where
  users : ∀ id, after.accounts.HasUser id →
    before.accounts.HasUser id ∧ id ∉ before.accounts.erased erasure
  tenants : ∀ id, (after.accounts.tenants.find? id).isSome ↔
    (before.accounts.tenants.find? id).isSome ∧ erasure ≠ .tenant id
  tokens : ∀ token ∈ after.tokens.rows, after.accounts.HasUser token.userId
  references : after.references = before.references.filterMap erasure.redact

section Purge

variable {db after : AuthDb} {id : String}

theorem hasUser_eraseUsers_iff
    {accounts : Accounts}
    {doomed : User → Bool} :
    (accounts.eraseUsers doomed).HasUser id ↔
      ∃ user, accounts.users.find? id = some user ∧ doomed user = false := by
  unfold Accounts.HasUser Accounts.eraseUsers
  rw [Table.find?_eraseWhere]
  cases accounts.users.find? id <;> simp

/-- The tokens that a cascade leaves have their users. -/
theorem tokensOwned_cascade (db : AuthDb) :
    ∀ token ∈ db.cascade.tokens.rows,
      db.cascade.accounts.HasUser token.userId := by
  intro token present
  have spared := (List.mem_filter.mp present).2
  simpa [Accounts.HasUser, AuthDb.cascade, Option.isSome_iff_ne_none] using
    spared

theorem erases_of_purgeUser
    (purged : db.purgeUser id = some after) :
    db.Erases (.user id) after := by
  simp only [AuthDb.purgeUser, Option.map_eq_some_iff] at purged
  obtain ⟨stored, found, rfl⟩ := purged
  refine ⟨?_, ?_, tokensOwned_cascade _, ?_⟩
  · intro other present
    obtain ⟨user, isStored, spared⟩ := hasUser_eraseUsers_iff.mp present
    have isOther := db.accounts.users.key_of_find? isStored
    refine ⟨Option.isSome_of_eq_some isStored, ?_⟩
    simpa [Accounts.erased, ← isOther] using spared
  · intro other
    simp [AuthDb.cascade, Accounts.eraseUsers]
  · simp only [AuthDb.references, AuthDb.cascade, ← List.filterMap_eq_map,
      List.filterMap_filterMap]
    apply List.filterMap_congr
    intro event _
    simp only [Function.comp_apply, Option.bind_some, Erasure.redact,
      AuditEvent.reference]
    split <;> rfl

theorem erases_of_purgeTenant
    (purged : db.purgeTenant id = some after) :
    db.Erases (.tenant id) after := by
  simp only [AuthDb.purgeTenant, Option.map_eq_some_iff] at purged
  obtain ⟨stored, found, rfl⟩ := purged
  refine ⟨?_, ?_, tokensOwned_cascade _, ?_⟩
  · intro other present
    obtain ⟨user, isStored, spared⟩ := hasUser_eraseUsers_iff.mp present
    refine ⟨Option.isSome_of_eq_some isStored, ?_⟩
    intro isMember
    obtain ⟨member, inTenant, isOther⟩ := List.mem_map.mp isMember
    obtain ⟨isRow, ofTenant⟩ := List.mem_filter.mp inTenant
    have found := db.accounts.users.find?_of_mem isRow
    rw [isOther, isStored] at found
    obtain rfl := Option.some.inj found
    rw [ofTenant] at spared
    contradiction
  · intro other
    simp only [AuthDb.cascade, Accounts.eraseTenant, Table.find?_erase]
    split
    · rename_i same
      simp [same]
    · rename_i apart
      simp [Ne.symm apart]
  · simp only [AuthDb.references, AuthDb.cascade, ← List.filterMap_eq_map,
      ← List.filterMap_eq_filter, List.filterMap_filterMap]
    apply List.filterMap_congr
    intro event _
    by_cases ofTenant : event.tenantId = some id <;>
      simp [Option.guard, ofTenant, Erasure.redact, AuditEvent.reference]

end Purge

section Step

variable (now : Nat) (fresh : Fresh)

theorem Phase.records_step (env : AuthEnv) (db : AuthDb) (phase : Phase) :
    db.Records phase.recording none (phase.step env now fresh db).1 := by
  cases phase with
  | rotate grant stored =>
      simp only [Phase.step]
      split
      · exact .refl db
      · exact .withTokens db _
  | revokeReused stored tenantId => exact .withTokens db _
  | createToken grant =>
      simp only [Phase.step]
      split
      · exact .refl db
      · exact .withTokens db _
  | revokePresented rawToken => exact .withTokens db _
  | resetTransaction user passwordHash =>
      simp only [Phase.step]
      split
      · exact .refl db
      · rename_i updated
        exact .unrecorded (fun _ named => named) fun id present => Or.inl
          (hasUser_of_updateUser updated (fun _ => rfl) present)
  | writeUser update =>
      simp only [Phase.step]
      split
      · exact .refl db
      · rename_i updated
        exact .withAccounts fun id present => Or.inl
          (hasUser_of_updateUser updated (fun _ => rfl) present)
  | revokeSessions update written => exact .withTokens db _
  | recordReuse stored tenantId count => exact .record rfl rfl
  | recordLogin grant ip session => exact .record rfl rfl
  | recordReset user => exact .record rfl rfl
  | recordSessions update written count => exact .record rfl rfl
  | recordEmail update written email => exact .record rfl rfl
  | _ => exact .refl db

theorem LinkPhase.records_step (env : AuthEnv) (input : LinkInput)
    (db : AuthDb) (phase : LinkPhase) :
    db.Records phase.recording none (phase.step env input db).1 := by
  cases phase with
  | recordRequest dto user => exact .record rfl rfl
  | session request phase =>
      exact phase.records_step input.now input.fresh env db
  | _ => exact .refl db

theorem PasskeyPhase.records_step (env : PasskeyEnv τ) (db : PasskeyDb)
    (phase : PasskeyPhase τ) :
    db.auth.Records phase.recording none
      (phase.step env now fresh db).1.auth := by
  cases phase with
  | updateCredential request row newCounter =>
      simp only [PasskeyPhase.step]
      split
      · exact .refl db.auth
      · rename_i used
        rw [PasskeyDb.auth_of_useCredential used]
        exact .refl db.auth
  | signIn phase =>
      have ofSession := phase.records_step now fresh env.toAuthEnv db.auth
      cases phase with
      | recordLogin grant ip session => exact .record rfl rfl
      | _ => exact ofSession
  | _ => exact .refl db.auth

/-- A statement that erases nobody. -/
theorem AdminPhase.records_step (env : AdminEnv) (db : AuthDb)
    {phase : AdminPhase}
    (spares : ∀ erasure ∈ phase.erasing, ¬ db.accounts.Finds erasure) :
    db.Records phase.recording (phase.creates fresh)
      (phase.step env now fresh db).1 := by
  have writes : ∀ (id : String) (change : User → User)
      (next : User → AdminPhase), (∀ user, (change user).id = user.id) →
        db.Records none none (db.writeUser id change next).1 := by
    intro id change next sameId
    unfold AuthDb.writeUser
    split
    · exact .refl db
    · rename_i updated
      exact .withAccounts fun other present => Or.inl
        (hasUser_of_updateUser updated sameId present)
  cases phase with
  | update phase => exact phase.records_step now fresh env.toAuthEnv db
  | softDelete id => exact writes id _ _ fun _ => rfl
  | restore id => exact writes id _ _ fun _ => rfl
  | purge user =>
      have absent : db.accounts.users.find? user.id = none :=
        Option.not_isSome_iff_eq_none.mp (spares (.user user.id) rfl)
      simp only [AdminPhase.step, AuthDb.purgeUser, absent, Option.map_none]
      exact .refl db
  | softDeleteTenant id =>
      simp only [AdminPhase.step]
      split
      · exact .refl db
      · rename_i updated
        exact .withAccounts fun other present => Or.inl
          (hasUser_of_sameUsers (users_of_updateTenant updated) present)
  | purgeTenant tenant =>
      have absent : db.accounts.tenants.find? tenant.id = none :=
        Option.not_isSome_iff_eq_none.mp (spares (.tenant tenant.id) rfl)
      simp only [AdminPhase.step, AuthDb.purgeTenant, absent, Option.map_none]
      exact .refl db
  | createMember tenantId actorId dto =>
      simp only [AdminPhase.step]
      split
      · exact .refl db
      · rename_i created
        exact .withAccounts fun other present =>
          hasUser_of_createUser created present
  | writeMember write scope =>
      exact writes scope.id _ _ fun user => (write.change_keeps now user).1
  | recordDeleted id user => exact .record rfl rfl
  | recordPurged user => exact .record rfl rfl
  | recordTenantDeleted id tenant => exact .record rfl rfl
  | recordTenantPurged tenant users auditEvents => exact .record rfl rfl
  | recordCreated tenantId actorId email member => exact .record rfl rfl
  | recordMember write scope member => exact .record rfl rfl
  | _ => exact .refl db

/-- A statement that erases nobody. -/
theorem LifecyclePhase.records_step (env : AuthEnv) (db : ConsoleDb)
    {phase : LifecyclePhase}
    (spares : ∀ erasure ∈ phase.erasing, ¬ db.auth.accounts.Finds erasure) :
    db.auth.Records phase.recording (phase.creates fresh)
      (phase.step env now fresh db).1.auth := by
  cases phase with
  | console phase => exact phase.records_step now fresh _ db.auth spares
  | restoreTenant id =>
      simp only [LifecyclePhase.step]
      split
      · exact .refl db.auth
      · rename_i updated
        exact .withAccounts fun other present => Or.inl
          (hasUser_of_sameUsers (users_of_updateTenant updated) present)
  | writeApp existing deleted =>
      simp only [LifecyclePhase.step]
      split
      · exact .refl db.auth
      · rename_i marked
        exact .withAccounts fun other present => Or.inl
          (hasUser_of_sameUsers (users_of_markApp marked) present)
  | purgeApp app roles tenants =>
      simp only [LifecyclePhase.step, ConsoleDb.purgeApp]
      cases db.auth.accounts.apps.find? app.id with
      | none => exact .refl db.auth
      | some stored =>
          exact .withAccounts fun other present => Or.inl
            ((hasUser_eraseApp_iff stored).mp present)
  | recordTenantRestored id tenant => exact .record rfl rfl
  | recordApp existing app deleted => exact .record rfl rfl
  | recordAppPurged app roles tenants => exact .record rfl rfl
  | _ => exact .refl db.auth

/-- A purge that finds its row. -/
theorem LifecyclePhase.erases_step (env : AuthEnv) (db : ConsoleDb)
    {phase : LifecyclePhase}
    {erasure : Erasure}
    (erasing : phase.erasing = some erasure)
    (finds : db.auth.accounts.Finds erasure) :
    db.auth.Erases erasure (phase.step env now fresh db).1.auth := by
  cases phase with
  | console phase =>
      cases phase with
      | purge user =>
          obtain rfl := Option.some.inj erasing
          obtain ⟨stored, found⟩ := Option.isSome_iff_exists.mp finds
          simp only [LifecyclePhase.step, AdminPhase.step]
          split
          · rename_i failed
            simp [AuthDb.purgeUser, found] at failed
          · rename_i purged
            exact erases_of_purgeUser purged
      | purgeTenant tenant =>
          obtain rfl := Option.some.inj erasing
          obtain ⟨stored, found⟩ := Option.isSome_iff_exists.mp finds
          simp only [LifecyclePhase.step, AdminPhase.step]
          split
          · rename_i failed
            simp [AuthDb.purgeTenant, found] at failed
          · rename_i purged
            exact erases_of_purgeTenant purged
      | _ => contradiction
  | _ => contradiction

theorem InvitePhase.records_step (env : AdminEnv) (fresh : InviteFresh)
    (db : InviteDb) (phase : InvitePhase) :
    db.auth.Records phase.recording (phase.creates fresh)
      (phase.step env now fresh db).1.auth := by
  cases phase with
  | createInvite draft roleIds =>
      simp only [InvitePhase.step]
      split
      · exact .refl db.auth
      · rename_i created
        rw [(InviteDb.of_createInvite created).1]
        exact .refl db.auth
  | rotateToken caller invite =>
      simp only [InvitePhase.step]
      split
      · exact .refl db.auth
      · rename_i updated
        rw [(InviteDb.of_updateInvite updated fun _ => rfl).1]
        exact .refl db.auth
  | deleteInvite caller invite =>
      simp only [InvitePhase.step]
      split
      · exact .refl db.auth
      · rename_i deleted
        rw [(InviteDb.of_deleteInvite deleted).1]
        exact .refl db.auth
  | acceptTransaction acceptance roles passwordHash =>
      simp only [InvitePhase.step]
      split
      · exact .refl db.auth
      · rename_i accounts created
        split
        · exact .refl db.auth
        · exact .withAccounts fun other present =>
            hasUser_of_createUser created present
  | recordInvite action caller email answer => exact .record rfl rfl
  | recordAccepted acceptance userId => exact .record rfl rfl
  | _ => exact .refl db.auth

/-- An invite keeps who has sent it, unless it is the one created. -/
theorem InvitePhase.inviter_step (env : AdminEnv) (fresh : InviteFresh)
    (db : InviteDb) (phase : InvitePhase)
    {invite : Invite}
    (present : invite ∈ (phase.step env now fresh db).1.invites.rows) :
    (∃ old ∈ db.invites.rows, old.invitedById = invite.invitedById) ∨
      phase.inviting env now fresh = some invite ∧
        (db.createInvite invite).isSome := by
  generalize isAfter : (phase.step env now fresh db).1 = after at present
  have effect := effect_step env now fresh db phase
  rw [isAfter] at effect
  cases effect with
  | none sameInvites sameAccounts =>
      rw [sameInvites] at present
      exact Or.inl ⟨invite, present, rfl⟩
  | deletedOpen draft roleIds =>
      exact Or.inl ⟨invite, (InviteDb.mem_eraseInvites_iff.mp present).1, rfl⟩
  | created draft roleIds created =>
      rcases ((InviteDb.of_createInvite created).2 invite).mp present with
        rfl | before
      · exact Or.inr ⟨rfl, Option.isSome_of_eq_some created⟩
      · exact Or.inl ⟨invite, before, rfl⟩
  | rotated caller rotated updated =>
      obtain ⟨_, stored, found, rows⟩ :=
        InviteDb.of_updateInvite updated fun _ => rfl
      rcases (rows invite).mp present with rfl | ⟨before, _⟩
      · exact Or.inl ⟨stored, db.invites.mem_of_find? found, rfl⟩
      · exact Or.inl ⟨invite, before, rfl⟩
  | deleted caller revoked deleted =>
      obtain ⟨_, _, rows⟩ := InviteDb.of_deleteInvite deleted
      exact Or.inl ⟨invite, ((rows invite).mp present).1, rfl⟩
  | accepted acceptance roles passwordHash created updated =>
      obtain ⟨_, stored, found, rows⟩ :=
        InviteDb.of_updateInvite updated fun _ => rfl
      rcases (rows invite).mp present with rfl | ⟨before, _⟩
      · exact Or.inl ⟨stored, db.invites.mem_of_find? found, rfl⟩
      · exact Or.inl ⟨invite, before, rfl⟩

/-- An invite that is not refused is created, and nothing else is written. -/
theorem InvitePhase.invites_step (env : AdminEnv) (fresh : InviteFresh)
    (db : InviteDb)
    {phase : InvitePhase}
    {invite : Invite}
    (inviting : phase.inviting env now fresh = some invite)
    (accepted : (db.createInvite invite).isSome) :
    (phase.step env now fresh db).1.auth = db.auth ∧
      invite ∈ (phase.step env now fresh db).1.invites.rows := by
  cases phase with
  | createInvite draft roleIds =>
      obtain rfl := Option.some.inj inviting
      obtain ⟨after, created⟩ := Option.isSome_iff_exists.mp accepted
      simp only [InvitePhase.step, created]
      obtain ⟨sameAuth, rows⟩ := InviteDb.of_createInvite created
      exact ⟨sameAuth, (rows _).mpr (Or.inl rfl)⟩
  | _ => contradiction

theorem WorkspacePhase.records_step (env : WorkspaceEnv τ)
    (input : WorkspaceInput) (db : AuthDb) (phase : WorkspacePhase τ) :
    db.Records phase.recording (phase.creates input)
      (phase.step env input db).1 := by
  cases phase with
  | createTenant dto =>
      simp only [WorkspacePhase.step]
      split
      · exact .refl db
      · rename_i created
        exact .withAccounts fun other present => Or.inl
          (hasUser_of_sameUsers (users_of_createTenant created) present)
  | createMany tenant plan appIds =>
      simp only [WorkspacePhase.step]
      split
      · exact .refl db
      · rename_i enrolled
        exact .withAccounts fun other present => Or.inl
          (hasUser_of_sameUsers (users_of_enroll enrolled) present)
  | transaction signup passwordHash trialEndsAt =>
      simp only [WorkspacePhase.step]
      split
      · exact .refl db
      · rename_i enabled tenant isCreated
        obtain ⟨rfl, withTenant, withFounder, created, founded, isEnabled⟩ :=
          Signup.of_create isCreated
        refine .withAccounts fun other present => ?_
        have inFounded : withFounder.HasUser other :=
          hasUser_of_sameUsers (users_of_createEnablement isEnabled) present
        rcases hasUser_of_createUser founded inFounded with before | isFounder
        · exact Or.inl (hasUser_of_sameUsers (users_of_createTenant created)
            before)
        · exact Or.inr isFounder
  | recordCreated tenant => exact .record rfl rfl
  | recordSent signedUp founder => exact .record rfl rfl
  | recordSignup signedUp => exact .record rfl rfl
  | _ => exact .refl db

end Step

end Auth
end EvoPlatform
