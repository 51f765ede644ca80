import EvoPlatform.Auth.Workspaces

/-!
# Provisioning the rows of an app

`provisionFromPlatform`, one database statement at a time.  After a login on
the platform an app brings its own rows into line with the claims of the
verified access token.  Its tenants are keyed by slug, its users by the user id
of the platform.
-/

namespace EvoPlatform
namespace Auth

variable {τ : Type}

/-! ## The database of the app -/

/-- A row of the `Tenant` table of the app. -/
structure LocalTenant where
  id : String
  slug : String
  name : String
  deriving DecidableEq

/-- The unique column of `Tenant`. -/
def LocalTenant.slugColumn (tenant : LocalTenant) : Option String :=
  some tenant.slug

/-- A row of the `User` table of the app. -/
structure LocalUser where
  id : String
  /-- Missing for an account of the app alone. -/
  platformUserId : Option String
  email : String
  name : Option String
  deriving DecidableEq

inductive LocalRole
  | owner
  | admin
  | member
  deriving DecidableEq

/-- A row of the `Membership` table of the app. -/
structure Membership where
  userId : String
  tenantId : String
  role : LocalRole
  deriving DecidableEq

/-- The unique columns of `Membership`. -/
def Membership.key (membership : Membership) : String × String :=
  (membership.userId, membership.tenantId)

/-- The database of the app, as far as sign-ins go. -/
structure LocalDb where
  tenants : Table LocalTenant.id
  slugUnique : tenants.Unique LocalTenant.slugColumn
  users : Table LocalUser.id
  platformUserUnique : users.Unique LocalUser.platformUserId
  memberships : Table Membership.key

namespace LocalDb

/-- No workspace and no user has signed in yet. -/
def empty : LocalDb :=
  ⟨.empty, Table.unique_empty _, .empty, Table.unique_empty _, .empty⟩

variable (db : LocalDb)

/-- `tenant.upsert` by slug, which throws when the id of a new row is taken. -/
def upsertTenant (slug name id : String) : Option (LocalDb × LocalTenant) :=
  match found : db.tenants.findBy LocalTenant.slugColumn slug with
  | some stored =>
      let renamed := { stored with name := name }
      some
        ({ db with
            tenants := db.tenants.put renamed
            slugUnique := db.slugUnique.put renamed
              (db.slugUnique.not_heldElsewhere (Table.mem_of_findBy found).1
                rfl rfl) },
          renamed)
  | none =>
      if (db.tenants.find? id).isSome then none
      else
        let created : LocalTenant := ⟨id, slug, name⟩
        some
          ({ db with
              tenants := db.tenants.put created
              slugUnique := by
                apply db.slugUnique.put created
                rintro ⟨other, present, _, _, holds⟩
                exact Table.findBy_eq_none_iff.mp found other present holds },
            created)

/-- `user.upsert` by the user id of the platform, which throws when the id of a
new row is taken. -/
def upsertUser (platformUserId email : String) (name : Option String)
    (id : String) : Option (LocalDb × LocalUser) :=
  match found : db.users.findBy LocalUser.platformUserId platformUserId with
  | some stored =>
      let updated := { stored with email := email, name := name <|> stored.name }
      some
        ({ db with
            users := db.users.put updated
            platformUserUnique := db.platformUserUnique.put updated
              (db.platformUserUnique.not_heldElsewhere
                (Table.mem_of_findBy found).1 rfl rfl) },
          updated)
  | none =>
      if (db.users.find? id).isSome then none
      else
        let created : LocalUser := ⟨id, some platformUserId, email, name⟩
        some
          ({ db with
              users := db.users.put created
              platformUserUnique := by
                apply db.platformUserUnique.put created
                rintro ⟨other, present, _, _, holds⟩
                exact Table.findBy_eq_none_iff.mp found other present holds },
            created)

/-- A membership is written. -/
def putMembership (membership : Membership) : LocalDb :=
  { db with memberships := db.memberships.put membership }

/-- The tenant of an id has a slug. -/
def HasSlug (id slug : String) : Prop :=
  ∃ tenant, db.tenants.find? id = some tenant ∧ tenant.slug = slug

end LocalDb

/-! ## Phases -/

/-- What an app takes from its surroundings. -/
structure AppEnv (τ : Type) extends WorkspaceEnv τ where
  client : EvoClient
  /-- `PLATFORM_DEFAULT_WORKSPACE`. -/
  defaultWorkspace : Option String

/-- What the platform answers to a login, as far as the app reads it. -/
structure LoginResult (τ : Type) where
  accessToken : τ
  /-- The name of the user. -/
  name : Option String
  /-- The name of the tenant. -/
  tenantName : Option String

/-- What `provisionFromPlatform` returns, with the claims it has verified. -/
structure Provision where
  claims : Claims
  user : LocalUser
  tenantId : String

/-- Where a call stands: the statement it sends next. -/
inductive ProvisionPhase (τ : Type)
  | verify (result : LoginResult τ)
  | upsertTenant (claims : Claims) (result : LoginResult τ)
  | upsertUser (claims : Claims) (result : LoginResult τ)
      (tenant : LocalTenant)
  | findMembership (claims : Claims) (user : LocalUser) (tenant : LocalTenant)
  | createMembership (claims : Claims) (user : LocalUser)
      (tenant : LocalTenant) (role : LocalRole)
  | updateMembership (claims : Claims) (user : LocalUser)
      (tenant : LocalTenant) (role : LocalRole)
  /-- `authorize` answers, with nothing after an error. -/
  | returned (provision : Option Provision)

/-- The role that the claims ask for. -/
def platformRole (roles : List String) : LocalRole :=
  if roles.contains "admin" then .admin else .member

/-- Carry out the statement a call waits for, and go on to the next one. -/
def ProvisionPhase.step (env : AppEnv τ) (now : Nat) (id : String)
    (db : LocalDb) : ProvisionPhase τ → LocalDb × ProvisionPhase τ
  | .verify result =>
      (db, match env.client.verifyToken env.keys.toJwtLibrary
          result.accessToken true (now / 1000) with
        | .error _ => .returned none
        | .ok claims => .upsertTenant claims result)
  | .upsertTenant claims result =>
      match claims.givenString? "tenant_slug", result.tenantName with
      | some slug, some tenantName =>
          match db.upsertTenant slug tenantName id with
          | none => (db, .returned none)
          | some (written, tenant) =>
              (written, .upsertUser claims result tenant)
      | _, _ => (db, .returned none)
  | .upsertUser claims result tenant =>
      match claims.get? "sub", claims.get? "email" with
      | some (.string sub), some (.string email) =>
          match db.upsertUser sub (env.toLowerCase email) result.name id with
          | none => (db, .returned none)
          | some (written, user) =>
              (written, .findMembership claims user tenant)
      | _, _ => (db, .returned none)
  | .findMembership claims user tenant =>
      (db, match claims.get? "roles" with
        | some (.strings roles) =>
            match db.memberships.find? (user.id, tenant.id) with
            | none =>
                .createMembership claims user tenant (platformRole roles)
            | some existing =>
                -- The platform never issues the role of an owner.
                if existing.role ≠ .owner ∧ existing.role ≠ platformRole roles
                  then
                  .updateMembership claims user tenant (platformRole roles)
                else .returned (some ⟨claims, user, tenant.id⟩)
        | _ => .returned none)
  | .createMembership claims user tenant role =>
      if (db.memberships.find? (user.id, tenant.id)).isSome then
        (db, .returned none)
      else
        (db.putMembership ⟨user.id, tenant.id, role⟩,
          .returned (some ⟨claims, user, tenant.id⟩))
  | .updateMembership claims user tenant role =>
      if (db.memberships.find? (user.id, tenant.id)).isNone then
        (db, .returned none)
      else
        (db.putMembership ⟨user.id, tenant.id, role⟩,
          .returned (some ⟨claims, user, tenant.id⟩))
  | .returned provision => (db, .returned provision)

/-! ## What a call carries -/

/-- The slug of a workspace and its id, as claims name them. -/
abbrev Naming := String × Option Json

/-- The workspace that claims name. -/
def Claims.naming (claims : Claims) : Option Naming :=
  (claims.givenString? "tenant_slug").map fun slug =>
    (slug, claims.get? "tenant_id")

namespace ProvisionPhase

/-- The workspace that a call is about. -/
def carries (keys : Keys τ) : ProvisionPhase τ → Option Naming
  | .verify result =>
      (keys.verify result.accessToken).bind fun payload =>
        payload.claims.naming
  | .upsertTenant claims _ | .upsertUser claims _ _
  | .findMembership claims _ _ | .createMembership claims _ _ _
  | .updateMembership claims _ _ _ => claims.naming
  | .returned provision =>
      provision.bind fun provision => provision.claims.naming

/-- The claims of a call with the id of the local tenant it has reached. -/
def reached : ProvisionPhase τ → Option (Claims × String)
  | .verify _ | .upsertTenant _ _ => none
  | .upsertUser claims _ tenant | .findMembership claims _ tenant
  | .createMembership claims _ tenant _
  | .updateMembership claims _ tenant _ => some (claims, tenant.id)
  | .returned provision =>
      provision.map fun provision => (provision.claims, provision.tenantId)

/-- The local tenant that a call has reached has the slug of its claims. -/
def Reaches (db : LocalDb) (phase : ProvisionPhase τ) : Prop :=
  ∀ claims id, phase.reached = some (claims, id) →
    ∃ slug, claims.givenString? "tenant_slug" = some slug ∧ db.HasSlug id slug

end ProvisionPhase

/-- `verifyToken` answers with the claims that were signed. -/
theorem EvoClient.of_verifyToken
    {client : EvoClient}
    {library : JwtLibrary τ}
    {token : τ}
    {audience : Bool}
    {now : Nat}
    {claims : Claims}
    (verified : client.verifyToken library token audience now = .ok claims) :
    ∃ payload, library.verify token = some payload ∧
      payload.claims = claims := by
  unfold EvoClient.verifyToken at verified
  split at verified
  · contradiction
  · rename_i payload isVerified
    obtain ⟨isPayload, _⟩ := Option.filter_eq_some_iff.mp isVerified
    refine ⟨payload, isPayload, ?_⟩
    split at verified
    · contradiction
    · split at verified
      · contradiction
      · split at verified
        · split at verified
          · contradiction
          · simp only at verified
            split at verified
            · contradiction
            · exact Except.ok.inj verified
        · exact Except.ok.inj verified

namespace LocalDb

variable {db after : LocalDb}

theorem hasSlug_of_upsertTenant
    {slug name id : String}
    {tenant : LocalTenant}
    (upserted : db.upsertTenant slug name id = some (after, tenant)) :
    after.HasSlug tenant.id slug ∧
      ∀ other otherSlug, db.HasSlug other otherSlug →
        after.HasSlug other otherSlug := by
  unfold upsertTenant at upserted
  split at upserted
  · rename_i stored found
    simp only [Option.some.injEq, Prod.mk.injEq] at upserted
    obtain ⟨rfl, rfl⟩ := upserted
    obtain ⟨present, isSlug⟩ := Table.mem_of_findBy found
    have sameSlug : stored.slug = slug := Option.some.inj isSlug
    have isStored := db.tenants.find?_of_mem present
    have renamed : (db.tenants.put { stored with name := name }).find?
        stored.id = some { stored with name := name } := by
      rw [Table.find?_put, if_pos rfl]
    constructor
    · exact ⟨_, renamed, sameSlug⟩
    · rintro other otherSlug ⟨row, isRow, rowSlug⟩
      by_cases same : other = stored.id
      · subst same
        obtain rfl := Option.some.inj (isStored.symm.trans isRow)
        exact ⟨_, renamed, rowSlug⟩
      · exact ⟨row, by rw [Table.find?_put, if_neg same, isRow], rowSlug⟩
  · split at upserted
    · contradiction
    · rename_i isNew
      simp only [Option.some.injEq, Prod.mk.injEq] at upserted
      obtain ⟨rfl, rfl⟩ := upserted
      constructor
      · exact ⟨_, by rw [Table.find?_put, if_pos rfl], rfl⟩
      · rintro other otherSlug ⟨row, isRow, rowSlug⟩
        have different : other ≠ id := by
          rintro rfl
          simp [isRow] at isNew
        exact ⟨row, by rw [Table.find?_put, if_neg different, isRow], rowSlug⟩

theorem tenants_of_upsertUser
    {platformUserId email id : String}
    {name : Option String}
    {user : LocalUser}
    (upserted : db.upsertUser platformUserId email name id =
      some (after, user)) :
    after.tenants = db.tenants := by
  unfold upsertUser at upserted
  split at upserted
  · simp only [Option.some.injEq, Prod.mk.injEq] at upserted
    obtain ⟨rfl, _⟩ := upserted
    rfl
  · split at upserted
    · contradiction
    · simp only [Option.some.injEq, Prod.mk.injEq] at upserted
      obtain ⟨rfl, _⟩ := upserted
      rfl

theorem HasSlug.of_sameTenants
    {id slug : String}
    (hasSlug : db.HasSlug id slug)
    (same : after.tenants = db.tenants) :
    after.HasSlug id slug := by
  unfold HasSlug at hasSlug ⊢
  rw [same]
  exact hasSlug

/-- An id has one slug. -/
theorem HasSlug.unique
    {id left right : String}
    (leftSlug : db.HasSlug id left)
    (rightSlug : db.HasSlug id right) :
    left = right := by
  obtain ⟨row, found, rfl⟩ := leftSlug
  obtain ⟨other, otherFound, rfl⟩ := rightSlug
  rw [Option.some.inj (found.symm.trans otherFound)]

end LocalDb

namespace ProvisionPhase

/-- What the next statement of a call can do to the database and to the
call. -/
inductive Moves (env : AppEnv τ) (db : LocalDb) :
    ProvisionPhase τ → LocalDb → ProvisionPhase τ → Prop
  | refused (phase : ProvisionPhase τ) : Moves env db phase db (.returned none)
  | verified {result : LoginResult τ} {payload : Payload} :
      env.keys.verify result.accessToken = some payload →
      Moves env db (.verify result) db (.upsertTenant payload.claims result)
  | upserted {claims : Claims} (result : LoginResult τ)
      {slug name id : String} {after : LocalDb} {tenant : LocalTenant} :
      claims.givenString? "tenant_slug" = some slug →
      db.upsertTenant slug name id = some (after, tenant) →
      Moves env db (.upsertTenant claims result) after
        (.upsertUser claims result tenant)
  | goesOn {phase next : ProvisionPhase τ} {after : LocalDb} :
      phase.reached.isSome → next.reached = phase.reached →
      after.tenants = db.tenants → Moves env db phase after next

/-- What a statement does is one of the moves. -/
theorem moves_step
    (env : AppEnv τ)
    (now : Nat)
    (id : String)
    (db : LocalDb)
    (phase : ProvisionPhase τ) :
    Moves env db phase (phase.step env now id db).1
      (phase.step env now id db).2 := by
  cases phase with
  | verify result =>
      simp only [step]
      split
      · exact .refused _
      · rename_i claims verified
        obtain ⟨payload, isPayload, rfl⟩ := EvoClient.of_verifyToken verified
        exact .verified isPayload
  | upsertTenant claims result =>
      simp only [step]
      split
      · rename_i slug tenantName isSlug _
        split
        · exact .refused _
        · rename_i upserted
          exact .upserted result isSlug upserted
      · exact .refused _
  | upsertUser claims result tenant =>
      simp only [step]
      split
      · split
        · exact .refused _
        · rename_i upserted
          exact .goesOn rfl rfl (LocalDb.tenants_of_upsertUser upserted)
      · exact .refused _
  | findMembership claims user tenant =>
      simp only [step]
      split
      · split
        · exact .goesOn rfl rfl rfl
        · split <;> exact .goesOn rfl rfl rfl
      · exact .refused _
  | createMembership claims user tenant role =>
      simp only [step]
      split
      · exact .refused _
      · exact .goesOn rfl rfl rfl
  | updateMembership claims user tenant role =>
      simp only [step]
      split
      · exact .refused _
      · exact .goesOn rfl rfl rfl
  | returned provision =>
      cases provision with
      | none => exact .refused _
      | some provision => exact .goesOn rfl rfl rfl

variable {env : AppEnv τ} {db after : LocalDb} {phase next : ProvisionPhase τ}

/-- A call that has reached a local tenant carries what its claims name. -/
theorem carries_of_reached
    (keys : Keys τ)
    {claims : Claims}
    {id : String}
    (isReached : phase.reached = some (claims, id)) :
    phase.carries keys = claims.naming := by
  cases phase with
  | verify result => contradiction
  | upsertTenant own result => contradiction
  | returned provision =>
      simp only [reached, Option.map_eq_some_iff, Prod.mk.injEq] at isReached
      obtain ⟨own, rfl, rfl, _⟩ := isReached
      rfl
  | _ =>
      simp only [reached, Option.some.injEq, Prod.mk.injEq] at isReached
      obtain ⟨rfl, _⟩ := isReached
      rfl

/-- A call stays with the workspace that its token names. -/
theorem Moves.carries
    (moves : Moves env db phase after next)
    {naming : Naming}
    (carried : next.carries env.keys = some naming) :
    phase.carries env.keys = some naming := by
  cases moves with
  | refused => contradiction
  | verified isPayload =>
      simp only [ProvisionPhase.carries, isPayload]
      exact carried
  | upserted => exact carried
  | goesOn hasReached sameReached _ =>
      obtain ⟨⟨claims, id⟩, isReached⟩ := Option.isSome_iff_exists.mp hasReached
      rw [carries_of_reached env.keys isReached]
      rw [carries_of_reached env.keys (sameReached.trans isReached)] at carried
      exact carried

/-- No statement takes its slug from a local tenant. -/
theorem Moves.hasSlug
    (moves : Moves env db phase after next)
    {id slug : String}
    (hasSlug : db.HasSlug id slug) :
    after.HasSlug id slug := by
  cases moves with
  | refused => exact hasSlug
  | verified => exact hasSlug
  | upserted _ _ upserted =>
      exact (LocalDb.hasSlug_of_upsertTenant upserted).2 id slug hasSlug
  | goesOn _ _ same => exact hasSlug.of_sameTenants same

theorem Reaches.undisturbed
    {bystander : ProvisionPhase τ}
    (reaches : bystander.Reaches db)
    (moves : Moves env db phase after next) :
    bystander.Reaches after := by
  intro claims id isReached
  obtain ⟨slug, isSlug, hasSlug⟩ := reaches claims id isReached
  exact ⟨slug, isSlug, moves.hasSlug hasSlug⟩

/-- The local tenant is looked up by the slug of the claims, and kept to. -/
theorem Reaches.goesOn
    (reaches : phase.Reaches db)
    (moves : Moves env db phase after next) :
    next.Reaches after := by
  intro claims id isReached
  cases moves with
  | refused => contradiction
  | verified => contradiction
  | upserted result isSlug upserted =>
      simp only [reached, Option.some.injEq, Prod.mk.injEq] at isReached
      obtain ⟨rfl, rfl⟩ := isReached
      exact ⟨_, isSlug, (LocalDb.hasSlug_of_upsertTenant upserted).1⟩
  | goesOn _ sameReached same =>
      obtain ⟨slug, isSlug, hasSlug⟩ :=
        reaches claims id (sameReached.symm.trans isReached)
      exact ⟨slug, isSlug, hasSlug.of_sameTenants same⟩

end ProvisionPhase

end Auth
end EvoPlatform
