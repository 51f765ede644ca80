import EvoPlatform.Auth.Provisioning

/-!
# Local workspaces and platform workspaces

The platform and an app that provisions its rows from the platform's logins.
The app knows a workspace by its slug, the platform by its id.  The two agree
as long as no workspace is founded under a slug that a sign-in has met, which a
purge makes free again.
-/

namespace EvoPlatform
namespace Auth

variable {τ : Type}

/-! ## Names -/

section Names

variable {α β : Type} {before after : α → β → Prop}

/-- A name still has one bearer when names are forgotten. -/
theorem rightUnique_mono
    (unique : Relator.RightUnique before)
    (kept : ∀ name bearer, after name bearer → before name bearer) :
    Relator.RightUnique after :=
  fun _ _ _ left right => unique (kept _ _ left) (kept _ _ right)

/-- A name still has one bearer when names that were free are given to one
bearer. -/
theorem rightUnique_grow
    {added : β}
    (unique : Relator.RightUnique before)
    (grows : ∀ name bearer, after name bearer → before name bearer ∨
      bearer = added ∧ ∀ other, ¬ before name other) :
    Relator.RightUnique after := by
  intro name left right leftNamed rightNamed
  rcases grows name left leftNamed with leftBefore | ⟨leftAdded, free⟩
  · rcases grows name right rightNamed with rightBefore | ⟨_, free⟩
    · exact unique leftBefore rightBefore
    · exact absurd leftBefore (free left)
  · rcases grows name right rightNamed with rightBefore | ⟨rightAdded, _⟩
    · exact absurd rightBefore (free right)
    · exact leftAdded.trans rightAdded.symm

end Names

/-! ## The platform and the app -/

/-- Put the account tables into the database; the credentials of users that are
no longer there are deleted. -/
def PasskeyDb.withAuth (db : PasskeyDb) (auth : AuthDb) : PasskeyDb where
  auth := auth
  credentials := db.credentials.eraseWhere fun credential =>
    (auth.accounts.users.find? credential.userId).isNone
  credentialIdUnique := db.credentialIdUnique.eraseWhere _
  countersFit := db.countersFit.eraseWhere _

/-- The databases of the platform and of the app. -/
structure Realm where
  platform : PasskeyDb
  roles : Table StoredRole.id
  app : LocalDb
  /-- The unique index on the slugs of the platform. -/
  slugsUnique : Relator.RightUnique platform.auth.accounts.Named

/-- What a sign-in form sends to the app. -/
structure Credentials where
  email : String
  password : String
  workspace : Option String

/-- The calls. -/
inductive RealmRequest (τ : Type)
  | session (request : Request)
  | admin (request : AdminRequest)
  | lifecycle (request : LifecycleRequest)
  | workspace (request : WorkspaceRequest τ)
  -- sign-ins to the app
  | signIn (credentials : Credentials)
  | passkeySignIn (credential : Assertion) (challengeToken : τ)

/-- Where a call stands. -/
inductive RealmPhase (τ : Type)
  | session (phase : Phase)
  | admin (phase : AdminPhase)
  | lifecycle (phase : LifecyclePhase)
  | workspace (phase : WorkspacePhase τ)
  /-- The app waits for `login`. -/
  | signIn (phase : Phase)
  /-- The app waits for `passkeyLoginVerify`. -/
  | passkey (phase : PasskeyPhase τ)
  | provision (phase : ProvisionPhase τ)

section App

variable (env : AppEnv τ)

/-- The login that `authorize` asks the platform for. -/
def Credentials.login (credentials : Credentials) : Option LoginDto :=
  let email := env.toLowerCase (env.trim credentials.email)
  if email = "" || credentials.password = "" then none
  else some
    { tenantSlug :=
        ((given (credentials.workspace.map env.trim)).map env.toLowerCase) <|>
          given env.defaultWorkspace
      email := email
      password := credentials.password
      clientId := env.client.clientId }

/-- What the platform answers with a session, its access token signed. -/
def loginResult (session : Session) : LoginResult τ where
  accessToken := env.keys.sign ⟨env.keys.kid, session.accessToken.claims,
    session.accessToken.exp, env.keys.issuer⟩
  name := session.name
  tenantName := session.tenantName

/-- The app goes on once the platform has answered. -/
def signInAnswered : Phase → RealmPhase τ
  | .done (.ok (.session session)) =>
      .provision (.verify (loginResult env session))
  | .done _ => .provision (.returned none)
  | phase => .signIn phase

/-- The app goes on once the platform has answered. -/
def passkeyAnswered : PasskeyPhase τ → RealmPhase τ
  | .signIn (.done (.ok (.session session))) =>
      .provision (.verify (loginResult env session))
  | .signIn (.done _) => .provision (.returned none)
  | phase => .passkey phase

/-- The first phase of a call. -/
def RealmRequest.begins : RealmRequest τ → RealmPhase τ
  | .session request => .session (request.begins env.toAuthEnv)
  | .admin request => .admin request.begins
  | .lifecycle request => .lifecycle request.begins
  | .workspace request => .workspace request.begins
  | .signIn credentials =>
      match credentials.login env with
      | none => .provision (.returned none)
      | some dto => .signIn ((Request.login dto none).begins env.toAuthEnv)
  | .passkeySignIn credential challengeToken =>
      .passkey (.findCredential
        ⟨credential, challengeToken, env.client.clientId, none⟩)

end App

/-- The slug under which the next statement of a call founds a workspace. -/
def RealmPhase.founding : RealmPhase τ → Option String
  | .workspace phase => phase.founding
  | _ => none

/-- The platform after a statement that founds nothing. -/
def Realm.keep (realm : Realm) (platform : PasskeyDb)
    (keeps : realm.platform.auth.accounts.KeepsSlugs platform.auth.accounts) :
    Realm :=
  { realm with
    platform := platform
    slugsUnique := rightUnique_mono realm.slugsUnique keeps }

/-- Carry out the statement a call waits for, and go on to the next one. -/
def RealmPhase.step (env : AppEnv τ) (input : WorkspaceInput) (realm : Realm) :
    RealmPhase τ → Realm × RealmPhase τ
  | .session phase =>
      let stepped := phase.step env.toAuthEnv input.now input.fresh
        realm.platform.auth
      (realm.keep (realm.platform.withAuth stepped.1)
        (Accounts.keepsSlugs_of_sameTenants
          (phase.tenants_step input.now input.fresh env.toAuthEnv _)),
        .session stepped.2)
  | .admin phase =>
      let adminEnv : AdminEnv := ⟨env.toAuthEnv, realm.roles⟩
      let stepped := phase.step adminEnv input.now input.fresh
        realm.platform.auth
      (realm.keep (realm.platform.withAuth stepped.1)
        (phase.keepsSlugs_step input.now input.fresh adminEnv _),
        .admin stepped.2)
  | .lifecycle phase =>
      let stepped := phase.step env.toAuthEnv input.now input.fresh
        ⟨realm.platform.auth, realm.roles⟩
      ({ realm.keep (realm.platform.withAuth stepped.1.auth)
          (phase.keepsSlugs_step input.now input.fresh env.toAuthEnv
            ⟨realm.platform.auth, realm.roles⟩) with
          roles := stepped.1.roles },
        .lifecycle stepped.2)
  | .workspace phase =>
      let stepped := phase.step env.toWorkspaceEnv input realm.platform.auth
      ({ realm with
          platform := realm.platform.withAuth stepped.1
          slugsUnique := by
            apply rightUnique_grow realm.slugsUnique
            intro slug id named
            rcases phase.named_step env.toWorkspaceEnv input _ named with
              before | ⟨_, isNew, free⟩
            · exact Or.inl before
            · exact Or.inr ⟨isNew, free⟩ },
        .workspace stepped.2)
  | .signIn phase =>
      let stepped := phase.step env.toAuthEnv input.now input.fresh
        realm.platform.auth
      (realm.keep (realm.platform.withAuth stepped.1)
        (Accounts.keepsSlugs_of_sameTenants
          (phase.tenants_step input.now input.fresh env.toAuthEnv _)),
        signInAnswered env stepped.2)
  | .passkey phase =>
      let stepped := phase.step env.toPasskeyEnv input.now input.fresh
        realm.platform
      (realm.keep stepped.1 (Accounts.keepsSlugs_of_sameTenants
          (phase.tenants_step input.now input.fresh env.toPasskeyEnv _)),
        passkeyAnswered env stepped.2)
  | .provision phase =>
      let stepped := phase.step env input.now input.fresh.id realm.app
      ({ realm with app := stepped.1 }, .provision stepped.2)

/-- A call is given up, unless it has returned. -/
def RealmPhase.abandon : RealmPhase τ → RealmPhase τ
  | .provision (.returned outcome) => .provision (.returned outcome)
  | _ => .provision (.returned none)

/-- The calls of the platform and the sign-ins to the app as a program. -/
def realmCalls (env : AppEnv τ) :
    Program Realm (RealmRequest τ) WorkspaceInput (RealmPhase τ) where
  begins := RealmRequest.begins env
  step := fun input realm phase => phase.step env input realm
  abandoned := RealmPhase.abandon

/-! ## What a sign-in carries -/

/-- A workspace as the claims of its members name it. -/
def Tenant.naming (tenant : Tenant) : Naming :=
  (tenant.slug, some (.string tenant.id))

/-- The workspace that a login has read, or for which it has issued tokens. -/
def Phase.carries : Phase → Option Naming
  | .findUser _ _ tenant | .comparePassword _ _ tenant _ =>
      tenant.map Tenant.naming
  | .findApp grant _ _ | .findEnablement grant _ _ | .rotate grant _
  | .createToken grant => grant.tenant.map Tenant.naming
  | .recordLogin _ _ session | .done (.ok (.session session)) =>
      session.accessToken.claims.naming
  | _ => none

def PasskeyPhase.carries : PasskeyPhase τ → Option Naming
  | .signIn phase => phase.carries
  | _ => none

def RealmPhase.carries (keys : Keys τ) : RealmPhase τ → Option Naming
  | .signIn phase => phase.carries
  | .passkey phase => phase.carries
  | .provision phase => phase.carries keys
  | _ => none

/-- A workspace of the platform, as claims name it. -/
def Accounts.Names (accounts : Accounts) (naming : Naming) : Prop :=
  ∃ tenant ∈ accounts.tenants.rows, tenant.naming = naming

section Carries

variable (env : AuthEnv) (now : Nat) (fresh : Fresh) {naming : Naming}

theorem Phase.Under.carries
    {grant : Grant}
    {phase : Phase}
    (under : Phase.Under grant phase) :
    phase.carries = grant.tenant.map Tenant.naming := by
  cases under <;> rfl

theorem Accounts.names_tenantOf
    {accounts : Accounts}
    {user : User}
    (carried : (accounts.tenantOf user).map Tenant.naming = some naming) :
    accounts.Names naming := by
  obtain ⟨tenant, isTenant, rfl⟩ := Option.map_eq_some_iff.mp carried
  obtain ⟨id, _, found⟩ := Option.bind_eq_some_iff.mp isTenant
  exact ⟨tenant, accounts.tenants.mem_of_find? found, rfl⟩

/-- The claims of a session name the workspace for which it was granted. -/
theorem Grant.naming_session
    (grant : Grant)
    (carried : (grant.session env now fresh).accessToken.claims.naming =
      some naming) :
    grant.tenant.map Tenant.naming = some naming := by
  simp only [Claims.naming, Option.map_eq_some_iff] at carried
  obtain ⟨slug, isSlug, rfl⟩ := carried
  cases isTenant : grant.tenant with
  | none =>
      have absent : (grant.session env now fresh).accessToken.claims.get?
          "tenant_slug" = some .null := by
        simp only [Grant.session, isTenant]
        rfl
      simp [Claims.givenString?, absent] at isSlug
  | some tenant =>
      have bySlug : (grant.session env now fresh).accessToken.claims.get?
          "tenant_slug" = some (.string tenant.slug) := by
        simp only [Grant.session, isTenant]
        rfl
      have byId : (grant.session env now fresh).accessToken.claims.get?
          "tenant_id" = some (.string tenant.id) := by
        simp only [Grant.session, isTenant]
        rfl
      simp only [Claims.givenString?, bySlug, given,
        Option.filter_eq_some_iff, Option.some.injEq] at isSlug
      rw [Option.map_some, byId, ← isSlug.1]
      rfl

/-- What a verified user goes on with is the workspace that was read. -/
theorem carries_completeLogin
    {user : User}
    {tenant : Option Tenant}
    {clientId ip : Option String}
    (carried : (completeLogin now user tenant clientId ip).carries =
      some naming) :
    tenant.map Tenant.naming = some naming := by
  rcases completeLogin_cases now user tenant clientId ip with
    ⟨error, failed⟩ | under
  · rw [failed] at carried
    contradiction
  · rw [under.carries] at carried
    exact carried

theorem UserUpdate.carries_unclashed (update : UserUpdate) :
    update.unclashed.carries = none := by
  unfold UserUpdate.unclashed
  split <;> rfl

theorem UserUpdate.carries_revoked (update : UserUpdate) (written : User) :
    (update.revoked written).carries = none := by
  unfold UserUpdate.revoked
  split
  · split <;> rfl
  · rfl

theorem UserUpdate.carries_written (update : UserUpdate) (user : User) :
    (update.written user).carries = none := by
  unfold UserUpdate.written
  split
  · rfl
  · exact update.carries_revoked user

/-- A session call reads the workspace it carries. -/
theorem Phase.carries_step
    (db : AuthDb)
    (phase : Phase)
    (carried : (phase.step env now fresh db).2.carries = some naming) :
    phase.carries = some naming ∨ db.accounts.Names naming := by
  cases phase with
  | findTenant dto ip slug =>
      simp only [Phase.step] at carried
      split at carried
      · contradiction
      · rename_i tenant found
        exact Or.inr ⟨tenant, List.mem_of_find?_eq_some found,
          Option.some.inj carried⟩
  | findUser dto ip tenant => exact Or.inl carried
  | comparePassword dto ip tenant user =>
      simp only [Phase.step] at carried
      split at carried
      · exact Or.inl (carries_completeLogin now carried)
      · contradiction
  | findApp grant tenant clientId =>
      simp only [Phase.step] at carried
      split at carried
      · contradiction
      · exact Or.inl carried
  | findEnablement grant tenant app =>
      simp only [Phase.step] at carried
      split at carried
      · contradiction
      · rw [grant.under_admitted.carries] at carried
        exact Or.inl carried
  | findToken rawToken =>
      apply Or.inr
      simp only [Phase.step] at carried
      split at carried
      · contradiction
      · rename_i stored _
        split at carried
        · contradiction
        · rename_i user _
          split at carried
          · unfold onRefreshReuse at carried
            split at carried <;> contradiction
          · rcases continueRefresh_cases now stored user
                (db.accounts.tenantOf user) with ⟨error, failed⟩ | under
            · rw [failed] at carried
              contradiction
            · rw [under.carries] at carried
              exact Accounts.names_tenantOf carried
  | rotate grant stored =>
      simp only [Phase.step] at carried
      split at carried
      · contradiction
      · exact Or.inl carried
  | createToken grant =>
      simp only [Phase.step] at carried
      split at carried
      · contradiction
      · apply Or.inl
        apply grant.naming_session env now fresh
        unfold Grant.issued at carried
        split at carried <;> exact carried
  | recordLogin grant ip session => exact Or.inl carried
  | done outcome => exact Or.inl carried
  | findResetUser token password userId =>
      simp only [Phase.step] at carried
      split at carried
      · contradiction
      · split at carried
        · contradiction
        · split at carried <;> contradiction
  | resetTransaction user passwordHash =>
      simp only [Phase.step] at carried
      split at carried <;> contradiction
  | findExisting id dto =>
      simp only [Phase.step] at carried
      split at carried
      · contradiction
      · split at carried
        · split at carried
          · contradiction
          · simp [UserUpdate.carries_unclashed] at carried
        · simp [UserUpdate.carries_unclashed] at carried
  | findClash update email =>
      simp only [Phase.step] at carried
      split at carried
      · contradiction
      · simp [UserUpdate.carries_unclashed] at carried
  | countAdmins update =>
      simp only [Phase.step] at carried
      split at carried <;> contradiction
  | writeUser update =>
      simp only [Phase.step] at carried
      split at carried
      · contradiction
      · split at carried
        · contradiction
        · simp [UserUpdate.carries_written] at carried
  | revokeSessions update written =>
      simp only [Phase.step] at carried
      split at carried
      · contradiction
      · simp [UserUpdate.carries_revoked] at carried
  | recordSessions update written count =>
      simp [Phase.step, UserUpdate.carries_revoked] at carried
  | _ => contradiction

end Carries

section Realm

variable (env : AppEnv τ) (input : WorkspaceInput)

theorem PasskeyPhase.carries_step
    (db : PasskeyDb)
    (phase : PasskeyPhase τ)
    {naming : Naming}
    (carried : (phase.step env.toPasskeyEnv input.now input.fresh
      db).2.carries = some naming) :
    phase.carries = some naming ∨ db.auth.accounts.Names naming := by
  cases phase with
  | findCredential request =>
      simp only [PasskeyPhase.step] at carried
      split at carried
      · contradiction
      · split at carried
        · contradiction
        · split at carried <;> contradiction
  | updateCredential request row newCounter =>
      simp only [PasskeyPhase.step] at carried
      split at carried <;> contradiction
  | findVerified request userId =>
      simp only [PasskeyPhase.step] at carried
      split at carried
      · contradiction
      · exact Or.inr (Accounts.names_tenantOf
          (carries_completeLogin input.now carried))
  | signIn phase =>
      have stepped : ((PasskeyPhase.signIn phase).step env.toPasskeyEnv
          input.now input.fresh db).2 =
            .signIn (phase.step env.toAuthEnv input.now input.fresh
              db.auth).2 := by
        cases phase <;> rfl
      rw [stepped] at carried
      exact phase.carries_step env.toAuthEnv input.now input.fresh db.auth
        carried

/-- The access token of a session names the workspace of the session. -/
theorem carries_verify (session : Session) :
    (ProvisionPhase.verify (loginResult env session)).carries env.keys =
      session.accessToken.claims.naming := by
  simp [ProvisionPhase.carries, loginResult, env.keys.verify_sign]

theorem carries_signInAnswered (phase : Phase) :
    (signInAnswered env phase).carries env.keys = phase.carries := by
  unfold signInAnswered
  split
  · exact carries_verify env _
  · rename_i outcome notSession
    cases outcome with
    | error error => rfl
    | ok answer =>
        cases answer with
        | session session => exact absurd rfl (notSession session)
        | _ => rfl
  · rfl

theorem carries_passkeyAnswered (phase : PasskeyPhase τ) :
    (passkeyAnswered env phase).carries env.keys = phase.carries := by
  unfold passkeyAnswered
  split
  · exact carries_verify env _
  · rename_i outcome notSession
    cases outcome with
    | error error => rfl
    | ok answer =>
        cases answer with
        | session session => exact absurd rfl (notSession session)
        | _ => rfl
  · rfl

/-- A sign-in reads the workspace it carries. -/
theorem RealmPhase.carries_step
    (realm : Realm)
    (phase : RealmPhase τ)
    {naming : Naming}
    (carried : (phase.step env input realm).2.carries env.keys =
      some naming) :
    phase.carries env.keys = some naming ∨
      realm.platform.auth.accounts.Names naming := by
  cases phase with
  | signIn phase =>
      simp only [RealmPhase.step, carries_signInAnswered] at carried
      exact phase.carries_step env.toAuthEnv input.now input.fresh _ carried
  | passkey phase =>
      simp only [RealmPhase.step, carries_passkeyAnswered] at carried
      exact phase.carries_step env input _ carried
  | provision phase =>
      exact Or.inl ((ProvisionPhase.moves_step env input.now input.fresh.id
        realm.app phase).carries carried)
  | _ => contradiction

theorem Accounts.KeepsSlugs.names
    {before after : Accounts}
    (keeps : before.KeepsSlugs after)
    {naming : Naming}
    (names : after.Names naming) :
    before.Names naming := by
  obtain ⟨tenant, present, rfl⟩ := names
  obtain ⟨old, oldPresent, sameSlug, sameId⟩ :=
    keeps tenant.slug tenant.id ⟨tenant, present, rfl, rfl⟩
  refine ⟨old, oldPresent, ?_⟩
  rw [Tenant.naming, sameSlug, sameId]
  rfl

/-- A workspace is new only where a call founds one, under a slug that was
free. -/
theorem RealmPhase.names_step
    (realm : Realm)
    (phase : RealmPhase τ)
    {naming : Naming}
    (names : (phase.step env input
      realm).1.platform.auth.accounts.Names naming) :
    realm.platform.auth.accounts.Names naming ∨
      phase.founding = some naming.1 ∧
        naming.2 = some (.string input.fresh.id) ∧
        ∀ id, ¬ realm.platform.auth.accounts.Names (naming.1, id) := by
  cases phase with
  | session phase =>
      exact Or.inl ((Accounts.keepsSlugs_of_sameTenants
        (phase.tenants_step _ _ _ _)).names names)
  | admin phase => exact Or.inl ((phase.keepsSlugs_step _ _ _ _).names names)
  | lifecycle phase =>
      exact Or.inl ((phase.keepsSlugs_step _ _ _
        ⟨realm.platform.auth, realm.roles⟩).names names)
  | workspace phase =>
      obtain ⟨tenant, present, rfl⟩ := names
      rcases phase.named_step env.toWorkspaceEnv input realm.platform.auth
          ⟨tenant, present, rfl, rfl⟩ with
        ⟨old, oldPresent, sameSlug, sameId⟩ | ⟨founds, isNew, free⟩
      · refine Or.inl ⟨old, oldPresent, ?_⟩
        rw [Tenant.naming, sameSlug, sameId]
        rfl
      · refine Or.inr ⟨founds, ?_, ?_⟩
        · rw [← isNew]
          rfl
        · rintro id ⟨other, otherPresent, isOther⟩
          exact free other.id
            ⟨other, otherPresent, congrArg Prod.fst isOther, rfl⟩
  | signIn phase =>
      exact Or.inl ((Accounts.keepsSlugs_of_sameTenants
        (phase.tenants_step _ _ _ _)).names names)
  | passkey phase =>
      exact Or.inl ((Accounts.keepsSlugs_of_sameTenants
        (phase.tenants_step _ _ _ _)).names names)
  | provision phase => exact Or.inl names

end Realm

/-! ## Runs -/

/-- No workspace is founded under a slug that a sign-in carries. -/
def FoundsUnmet (env : AppEnv τ) (pool : Pool Realm (RealmPhase τ)) :
    PoolEvent (RealmRequest τ) WorkspaceInput → Prop
  | .advance index _ => ∀ phase ∈ pool.calls[index]?,
      ∀ slug ∈ phase.founding, ∀ other ∈ pool.calls,
        ∀ naming ∈ other.carries env.keys, naming.1 ≠ slug
  | _ => True

instance (env : AppEnv τ) (pool : Pool Realm (RealmPhase τ)) :
    (event : PoolEvent (RealmRequest τ) WorkspaceInput) →
      Decidable (FoundsUnmet env pool event)
  | .advance index _ =>
      inferInstanceAs (Decidable (∀ phase ∈ pool.calls[index]?,
        ∀ slug ∈ phase.founding, ∀ other ∈ pool.calls,
          ∀ naming ∈ other.carries env.keys, naming.1 ≠ slug))
  | .start _ => isTrue trivial
  | .abandon _ => isTrue trivial

/-- A slug and an id name a workspace that is there or that a sign-in has
met. -/
def Met (env : AppEnv τ) (pool : Pool Realm (RealmPhase τ)) (slug : String)
    (id : Option Json) : Prop :=
  pool.data.platform.auth.accounts.Names (slug, id) ∨
    ∃ phase ∈ pool.calls, phase.carries env.keys = some (slug, id)

/-- What a call has returned to the app. -/
def RealmPhase.provisioned : RealmPhase τ → Option Provision
  | .provision (.returned outcome) => outcome
  | _ => none

/-- The local tenant that a sign-in has reached has the slug of its claims. -/
def RealmPhase.Reaches (db : LocalDb) : RealmPhase τ → Prop
  | .provision phase => phase.Reaches db
  | _ => True

/-- A slug names one workspace, and every sign-in keeps to it. -/
structure Bound (env : AppEnv τ) (pool : Pool Realm (RealmPhase τ)) :
    Prop where
  met : Relator.RightUnique (Met env pool)
  reaches : ∀ phase ∈ pool.calls, phase.Reaches pool.data.app

section Runs

variable {env : AppEnv τ} {pool : Pool Realm (RealmPhase τ)}

/-- Two tenants with one name are one. -/
theorem Realm.names_rightUnique (realm : Realm) :
    Relator.RightUnique fun slug id =>
      realm.platform.auth.accounts.Names (slug, id) := by
  rintro slug left right ⟨tenant, present, isLeft⟩ ⟨other, otherPresent, isRight⟩
  simp only [Tenant.naming, Prod.mk.injEq] at isLeft isRight
  have sameId : tenant.id = other.id :=
    realm.slugsUnique ⟨tenant, present, isLeft.1, rfl⟩
      ⟨other, otherPresent, isRight.1, rfl⟩
  rw [← isLeft.2, ← isRight.2, sameId]

theorem RealmPhase.carries_begins (env : AppEnv τ) (request : RealmRequest τ) :
    (request.begins env).carries env.keys = none := by
  cases request with
  | signIn credentials =>
      simp only [RealmRequest.begins]
      split
      · rfl
      · simp only [Request.begins]
        split <;> rfl
  | _ => rfl

theorem RealmPhase.reaches_begins (db : LocalDb) (request : RealmRequest τ) :
    (request.begins env).Reaches db := by
  cases request with
  | signIn credentials =>
      simp only [RealmRequest.begins]
      split
      · intro claims id isReached
        contradiction
      · trivial
  | _ => trivial

theorem RealmPhase.carries_abandon
    {phase : RealmPhase τ}
    {naming : Naming}
    (carried : phase.abandon.carries env.keys = some naming) :
    phase.carries env.keys = some naming := by
  unfold RealmPhase.abandon at carried
  split at carried
  · exact carried
  · contradiction

theorem RealmPhase.reaches_abandon
    {db : LocalDb}
    {phase : RealmPhase τ}
    (reaches : phase.Reaches db) :
    phase.abandon.Reaches db := by
  unfold RealmPhase.abandon
  split
  · exact reaches
  · intro claims id isReached
    contradiction

/-- A step names only what was named before, or founds a workspace under a slug
that was met by nobody. -/
theorem met_step
    {index : Nat}
    {input : WorkspaceInput}
    {phase : RealmPhase τ}
    (unmet : FoundsUnmet env pool (.advance index input))
    (present : pool.calls[index]? = some phase)
    {slug : String}
    {id : Option Json}
    (met : Met env
      ({ pool with data := (phase.step env input pool.data).1 }.setCall index
        (phase.step env input pool.data).2) slug id) :
    Met env pool slug id ∨ id = some (.string input.fresh.id) ∧
      ∀ other, ¬ Met env pool slug other := by
  rcases met with names | ⟨bystander, isCall, carried⟩
  · rcases phase.names_step env input pool.data names with
      before | ⟨founds, isNew, free⟩
    · exact Or.inl (Or.inl before)
    · refine Or.inr ⟨isNew, ?_⟩
      rintro other (before | ⟨sibling, isSibling, carries⟩)
      · exact free other before
      · exact unmet phase present slug founds sibling isSibling _ carries rfl
  · apply Or.inl
    obtain ⟨other, found⟩ := List.mem_iff_getElem?.mp isCall
    rcases Pool.of_getElem?_setCall found with ⟨_, rfl⟩ | ⟨_, before⟩
    · rcases phase.carries_step env input pool.data carried with
        carries | names
      · exact Or.inr ⟨phase, List.mem_of_getElem? present, carries⟩
      · exact Or.inl names
    · exact Or.inr ⟨bystander, List.mem_of_getElem? before, carried⟩

theorem RealmPhase.Reaches.undisturbed
    {db : Realm}
    {bystander : RealmPhase τ}
    (input : WorkspaceInput)
    (phase : RealmPhase τ)
    (reaches : bystander.Reaches db.app) :
    bystander.Reaches (phase.step env input db).1.app := by
  cases phase with
  | provision phase =>
      cases bystander with
      | provision bystander =>
          exact ProvisionPhase.Reaches.undisturbed reaches
            (ProvisionPhase.moves_step env input.now input.fresh.id db.app
              phase)
      | _ => trivial
  | _ => exact reaches

theorem RealmPhase.Reaches.goesOn
    {db : Realm}
    {phase : RealmPhase τ}
    (input : WorkspaceInput)
    (reaches : phase.Reaches db.app) :
    (phase.step env input db).2.Reaches (phase.step env input db).1.app := by
  cases phase with
  | signIn phase =>
      simp only [RealmPhase.step, signInAnswered]
      split
      · intro claims id isReached
        contradiction
      · intro claims id isReached
        contradiction
      · trivial
  | passkey phase =>
      simp only [RealmPhase.step, passkeyAnswered]
      split
      · intro claims id isReached
        contradiction
      · intro claims id isReached
        contradiction
      · trivial
  | provision phase =>
      exact ProvisionPhase.Reaches.goesOn reaches
        (ProvisionPhase.moves_step env input.now input.fresh.id db.app phase)
  | _ => trivial

theorem Bound.step
    {next : Pool Realm (RealmPhase τ)}
    {event : PoolEvent (RealmRequest τ) WorkspaceInput}
    (bound : Bound env pool)
    (unmet : FoundsUnmet env pool event)
    (stepped : (realmCalls env).poolStep pool event = some next) :
    Bound env next := by
  cases event with
  | start request =>
      obtain rfl := Option.some.inj stepped
      constructor
      · apply rightUnique_mono bound.met
        rintro slug id (names | ⟨phase, isCall, carried⟩)
        · exact Or.inl names
        · rcases List.mem_append.mp isCall with before | isAdded
          · exact Or.inr ⟨phase, before, carried⟩
          · rw [List.mem_singleton.mp isAdded] at carried
            have carriesNone := RealmPhase.carries_begins env request
            simp only [realmCalls, carriesNone] at carried
            contradiction
      · intro phase isCall
        rcases List.mem_append.mp isCall with before | isAdded
        · exact bound.reaches phase before
        · rw [List.mem_singleton.mp isAdded]
          exact RealmPhase.reaches_begins _ request
  | advance index input =>
      simp only [Program.poolStep, Option.map_eq_some_iff] at stepped
      obtain ⟨phase, present, rfl⟩ := stepped
      constructor
      · exact rightUnique_grow bound.met fun slug id => met_step unmet present
      · intro bystander isCall
        obtain ⟨other, found⟩ := List.mem_iff_getElem?.mp isCall
        rcases Pool.of_getElem?_setCall found with ⟨_, rfl⟩ | ⟨_, before⟩
        · exact (bound.reaches phase
            (List.mem_of_getElem? present)).goesOn input
        · exact (bound.reaches bystander
            (List.mem_of_getElem? before)).undisturbed input phase
  | abandon index =>
      simp only [Program.poolStep, Option.map_eq_some_iff] at stepped
      obtain ⟨phase, present, rfl⟩ := stepped
      constructor
      · apply rightUnique_mono bound.met
        rintro slug id (names | ⟨bystander, isCall, carried⟩)
        · exact Or.inl names
        · obtain ⟨other, found⟩ := List.mem_iff_getElem?.mp isCall
          rcases Pool.of_getElem?_setCall found with ⟨_, rfl⟩ | ⟨_, before⟩
          · exact Or.inr ⟨phase, List.mem_of_getElem? present,
              RealmPhase.carries_abandon carried⟩
          · exact Or.inr ⟨bystander, List.mem_of_getElem? before, carried⟩
      · intro bystander isCall
        obtain ⟨other, found⟩ := List.mem_iff_getElem?.mp isCall
        rcases Pool.of_getElem?_setCall found with ⟨_, rfl⟩ | ⟨_, before⟩
        · exact RealmPhase.reaches_abandon
            (bound.reaches phase (List.mem_of_getElem? present))
        · exact bound.reaches bystander (List.mem_of_getElem? before)

/-- From any databases and in every interleaving: while no workspace is founded
under a slug that a sign-in carries, two sign-ins to the app that return the
same local tenant were to the same workspace of the platform. -/
theorem localTenant_ofOneWorkspace
    (env : AppEnv τ)
    {realm : Realm}
    {events : List (PoolEvent (RealmRequest τ) WorkspaceInput)}
    {final : Pool Realm (RealmPhase τ)}
    (run : Run (realmCalls env).poolStep (FoundsUnmet env) ⟨realm, []⟩ events
      final)
    {left right : RealmPhase τ}
    (isLeft : left ∈ final.calls)
    (isRight : right ∈ final.calls)
    {leftProvision rightProvision : Provision}
    (leftReturned : left.provisioned = some leftProvision)
    (rightReturned : right.provisioned = some rightProvision)
    (sameTenant : leftProvision.tenantId = rightProvision.tenantId) :
    leftProvision.claims.get? "tenant_id" =
      rightProvision.claims.get? "tenant_id" := by
  have bound : Bound env final := by
    apply run.invariant (Bound env) (fun _ _ _ bound => bound.step)
    constructor
    · apply rightUnique_mono realm.names_rightUnique
      rintro slug id (names | ⟨phase, isCall, _⟩)
      · exact names
      · contradiction
    · intro phase isCall
      contradiction
  have metSlug : ∀ phase ∈ final.calls, ∀ provision,
      phase.provisioned = some provision → ∃ slug,
        Met env final slug (provision.claims.get? "tenant_id") ∧
          final.data.app.HasSlug provision.tenantId slug := by
    intro phase isCall provision returned
    have reaches := bound.reaches phase isCall
    unfold RealmPhase.provisioned at returned
    split at returned
    · subst returned
      obtain ⟨slug, isSlug, hasSlug⟩ :=
        reaches provision.claims provision.tenantId rfl
      refine ⟨slug, Or.inr ⟨_, isCall, ?_⟩, hasSlug⟩
      simp [RealmPhase.carries, ProvisionPhase.carries, Claims.naming, isSlug]
    · contradiction
  obtain ⟨leftSlug, leftMet, leftHas⟩ :=
    metSlug left isLeft leftProvision leftReturned
  obtain ⟨rightSlug, rightMet, rightHas⟩ :=
    metSlug right isRight rightProvision rightReturned
  rw [sameTenant] at leftHas
  rw [leftHas.unique rightHas] at leftMet
  exact bound.met leftMet rightMet

end Runs

/-! ## A slug that is used again -/

/-- An app with the client id `crm`. -/
def crmEnv : AppEnv Payload where
  toPasskeyEnv := lengthEnv
  signupMode := .opened
  trialDays := 14
  autoEnroll := fun _ => true
  client := ⟨"evoplatform", some "crm", ["k"]⟩
  defaultWorkspace := none

/-- A platform with the workspace `acme`, one member and one app, which has no
rows yet. -/
def acmeRealm : Realm where
  platform :=
    { auth :=
        { accounts :=
            { tenants :=
                ⟨[⟨"t1", "acme", "Acme", .active, none, none⟩],
                  List.nodup_singleton "t1"⟩
              apps := ⟨[⟨"a1", "crm", none⟩], List.nodup_singleton "a1"⟩
              appTenants :=
                ⟨[⟨"t1", "a1", .active, "free", none, none, none⟩],
                  List.nodup_singleton ("t1", "a1")⟩
              users := ⟨[{ demoUser with tenantId := some "t1" }],
                List.nodup_singleton "u1"⟩
              addressUnique := Table.unique_of_nodup (by decide)
              clientIdGiven := by simp
              clientIdUnique := Table.unique_of_nodup (by decide)
              subscriptionUnique := Table.unique_of_nodup (by decide)
              references := by simp [Table.find?] }
          tokens := .empty
          audit := [] }
      credentials := .empty
      credentialIdUnique := PasskeyDb.credentialIdUnique_empty
      countersFit := PasskeyDb.countersFit_empty }
  roles := .empty
  app := ⟨.empty, LocalDb.empty.slugUnique, .empty,
    LocalDb.empty.platformUserUnique, .empty⟩
  slugsUnique := by
    rintro slug left right ⟨tenant, present, _, rfl⟩ ⟨other, otherPresent, _, rfl⟩
    rw [List.mem_singleton.mp present, List.mem_singleton.mp otherPresent]

/-- Some statements of a call, all of which draw the same id. -/
def realmStatements (index count : Nat) (id : String) :
    List (PoolEvent (RealmRequest Payload) WorkspaceInput) :=
  List.replicate count (.advance index ⟨1, ⟨id, id, ""⟩, "u2", "", true⟩)

/-- A sign-in to `acme`, from its start to its end. -/
def signInEvents (email : String) (index : Nat) (id : String) :
    List (PoolEvent (RealmRequest Payload) WorkspaceInput) :=
  .start (.signIn ⟨email, "secret", some "acme"⟩) ::
    realmStatements index 12 id

/-- The workspace `t1` is removed and purged. -/
def purgeEvents (index : Nat) :
    List (PoolEvent (RealmRequest Payload) WorkspaceInput) :=
  .start (.lifecycle (.tenant .remove "t1")) :: realmStatements index 3 "" ++
    .start (.lifecycle (.tenant .purge "t1")) ::
      realmStatements (index + 1) 3 ""

/-- A company signs up for a workspace with a slug. -/
def signupEvents (slug : String) (index : Nat) :
    List (PoolEvent (RealmRequest Payload) WorkspaceInput) :=
  .start (.workspace (.signup
      ⟨"Acme", some slug, "c@d.co", "first", none, none, "crm", none⟩ none)) ::
    realmStatements index 8 "t2"

/-- A member signs in twice, the workspace is purged, and another one is founded
under a slug of its own. -/
theorem localTenant_ofOneWorkspace_inTurn :
    ∃ final, Run (realmCalls crmEnv).poolStep (FoundsUnmet crmEnv)
        ⟨acmeRealm, []⟩
        (signInEvents "a@b.co" 0 "x" ++ signInEvents "a@b.co" 1 "y" ++
          purgeEvents 2 ++ signupEvents "beta" 4) final ∧
      ∃ left ∈ final.calls, ∃ right ∈ final.calls,
        ∃ leftProvision rightProvision,
          left.provisioned = some leftProvision ∧
          right.provisioned = some rightProvision ∧
          leftProvision.tenantId = rightProvision.tenantId ∧
          leftProvision.claims.get? "tenant_id" =
            rightProvision.claims.get? "tenant_id" := by
  obtain ⟨final, run, ended⟩ := Run.exists_of_execute
    (realmCalls crmEnv).poolStep
    (fun state event => decide (FoundsUnmet crmEnv state event))
    (fun _ _ passed => of_decide_eq_true passed) ⟨acmeRealm, []⟩
    (signInEvents "a@b.co" 0 "x" ++ signInEvents "a@b.co" 1 "y" ++
      purgeEvents 2 ++ signupEvents "beta" 4)
    (fun state => state.data.platform.auth.accounts.slugTaken "beta" &&
      (state.calls[0]?.bind RealmPhase.provisioned).any fun left =>
        (state.calls[1]?.bind RealmPhase.provisioned).any fun right =>
          left.tenantId = right.tenantId)
    (by decide +kernel)
  simp only [Bool.and_eq_true, Option.any_eq_true, Option.bind_eq_some_iff,
    decide_eq_true_eq] at ended
  obtain ⟨_, leftProvision, ⟨left, isLeft, leftReturned⟩, rightProvision,
    ⟨right, isRight, rightReturned⟩, sameTenant⟩ := ended
  exact ⟨final, run, left, List.mem_of_getElem? isLeft, right,
    List.mem_of_getElem? isRight, leftProvision, rightProvision, leftReturned,
    rightReturned, sameTenant,
    localTenant_ofOneWorkspace crmEnv run (List.mem_of_getElem? isLeft)
      (List.mem_of_getElem? isRight) leftReturned rightReturned sameTenant⟩

/-- The slug of a purged workspace is taken by a signup: the founder signs in to
the local tenant of the workspace that was purged. -/
theorem reusedSlug_entersLocalTenant :
    ∃ final, Run (realmCalls crmEnv).poolStep (fun _ _ => True)
        ⟨acmeRealm, []⟩
        (signInEvents "a@b.co" 0 "x" ++ purgeEvents 1 ++
          signupEvents "acme" 3 ++
          .start (.session (.resetPassword "u2" "secret")) ::
            realmStatements 4 4 "" ++
          signInEvents "c@d.co" 5 "y") final ∧
      ∃ left ∈ final.calls, ∃ right ∈ final.calls,
        ∃ leftProvision rightProvision,
          left.provisioned = some leftProvision ∧
          right.provisioned = some rightProvision ∧
          leftProvision.tenantId = rightProvision.tenantId ∧
          leftProvision.claims.get? "tenant_id" = some (.string "t1") ∧
          rightProvision.claims.get? "tenant_id" = some (.string "t2") := by
  obtain ⟨final, run, ended⟩ := Run.exists_of_execute
    (realmCalls crmEnv).poolStep (fun _ _ => true) (fun _ _ _ => trivial)
    ⟨acmeRealm, []⟩
    (signInEvents "a@b.co" 0 "x" ++ purgeEvents 1 ++ signupEvents "acme" 3 ++
      .start (.session (.resetPassword "u2" "secret")) ::
        realmStatements 4 4 "" ++
      signInEvents "c@d.co" 5 "y")
    (fun state =>
      (state.calls[0]?.bind RealmPhase.provisioned).any fun left =>
        (state.calls[5]?.bind RealmPhase.provisioned).any fun right =>
          left.tenantId = right.tenantId &&
            left.claims.get? "tenant_id" = some (.string "t1") &&
              right.claims.get? "tenant_id" = some (.string "t2"))
    (by decide +kernel)
  simp only [Bool.and_eq_true, Option.any_eq_true, Option.bind_eq_some_iff,
    decide_eq_true_eq] at ended
  obtain ⟨leftProvision, ⟨left, isLeft, leftReturned⟩, rightProvision,
    ⟨right, isRight, rightReturned⟩, ⟨sameTenant, ofFirst⟩, ofSecond⟩ := ended
  exact ⟨final, run, left, List.mem_of_getElem? isLeft, right,
    List.mem_of_getElem? isRight, leftProvision, rightProvision, leftReturned,
    rightReturned, sameTenant, ofFirst, ofSecond⟩

end Auth
end EvoPlatform
