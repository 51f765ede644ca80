import EvoPlatform.Auth.Lifecycle
import EvoPlatform.Auth.Passkeys

/-!
# Workspaces and their slugs

`TenantsService.create` and `SignupService.signup`, one database statement at a
time.  They alone bring a slug into the `tenants` table: every other statement
of the platform keeps the slug of each tenant, or deletes the tenant.
-/

namespace EvoPlatform
namespace Auth

variable {τ : Type}

/-- What the creation of a workspace takes from its surroundings. -/
structure WorkspaceEnv (τ : Type) extends PasskeyEnv τ where
  signupMode : SignupMode
  trialDays : Nat
  /-- The column `autoEnroll` of an app, which no call here writes. -/
  autoEnroll : App → Bool

/-- What a statement takes from outside. -/
structure WorkspaceInput where
  now : Nat
  fresh : Fresh
  /-- The id of a created founder. -/
  userId : String
  /-- `randomBytes(2)`, in hexadecimal. -/
  suffix : String
  /-- What `sendAllowed` answers. -/
  allowed : Bool

structure CreateTenantDto where
  slug : String
  name : String
  plan : Option String

structure SignupDto (τ : Type) where
  company : String
  slug : Option String
  email : String
  password : String
  firstName : Option String
  lastName : Option String
  clientId : String
  inviteToken : Option τ

/-! ## The database -/

namespace Accounts

variable (accounts : Accounts)

/-- `tenant.create`, which throws when the id or the slug is taken. -/
def createTenant (tenant : Tenant) : Option Accounts :=
  if (accounts.tenants.find? tenant.id).isSome ||
      accounts.tenants.rows.any fun other => other.slug = tenant.slug then
    none
  else some
    { accounts with
      tenants := accounts.tenants.put tenant
      references := by
        intro enablement present
        obtain ⟨ofTenant, ofApp⟩ := accounts.references enablement present
        refine ⟨?_, ofApp⟩
        rw [Table.find?_put]
        split
        · rfl
        · exact ofTenant }

/-- `appTenant.create`, which throws when the app is enabled already, when the
tenant or the app is missing, or when the subscription is taken. -/
def createEnablement (enablement : AppTenant) : Option Accounts :=
  if free : ¬ accounts.appTenants.HeldElsewhere
        AppTenant.stripeSubscriptionId enablement ∧
      (accounts.tenants.find? enablement.tenantId).isSome ∧
      (accounts.apps.find? enablement.appId).isSome ∧
      (accounts.appTenants.find? enablement.key).isNone then
    some
      { accounts with
        appTenants := accounts.appTenants.put enablement
        subscriptionUnique := accounts.subscriptionUnique.put _ free.1
        references := by
          intro other present
          rcases (accounts.appTenants.mem_put_iff _ other).mp present with
            rfl | ⟨before, _⟩
          · exact ⟨free.2.1, free.2.2.1⟩
          · exact accounts.references other before }
  else none

/-- `appTenant.createMany` for some apps. -/
def enroll (tenantId plan : String) : List String → Accounts → Option Accounts
  | [], accounts => some accounts
  | appId :: appIds, accounts =>
      (accounts.createEnablement
        ⟨tenantId, appId, .active, plan, none, none, none⟩).bind
        (enroll tenantId plan appIds)

/-- A slug is that of the tenant with an id. -/
def Named (slug id : String) : Prop :=
  ∃ tenant ∈ accounts.tenants.rows, tenant.slug = slug ∧ tenant.id = id

end Accounts

/-! ## Phases -/

/-- A signup whose checks are passed. -/
structure Signup (τ : Type) where
  dto : SignupDto τ
  ip : Option String
  app : App
  slug : String

/-- What is left of a signup once its workspace is created. -/
structure SignedUp where
  tenant : Tenant
  email : String
  clientId : String
  ip : Option String
  trialEndsAt : Nat

/-- The calls. -/
inductive WorkspaceRequest (τ : Type)
  | create (dto : CreateTenantDto)
  | signup (dto : SignupDto τ) (ip : Option String)

/-- What a call returns. -/
inductive WorkspaceAnswer
  | tenant (tenant : Tenant)
  | signedUp (tenantSlug : String) (trialEndsAt : Nat)

/-- Where a call stands: the statement it sends next. -/
inductive WorkspacePhase (τ : Type)
  -- TenantsService.create
  | findSlug (dto : CreateTenantDto)
  | createTenant (dto : CreateTenantDto)
  | findAutoEnroll (tenant : Tenant) (plan : String)
  | createMany (tenant : Tenant) (plan : String) (appIds : List String)
  | recordCreated (tenant : Tenant)
  -- SignupService.signup
  | findSignupApp (dto : SignupDto τ) (ip : Option String)
  | findTaken (signup : Signup τ)
  | findDerived (signup : Signup τ)
  | hashPassword (signup : Signup τ)
  | transaction (signup : Signup τ) (passwordHash : String)
      (trialEndsAt : Nat)
  -- sendVerification
  | findWorkspace (signedUp : SignedUp)
  | findFounder (signedUp : SignedUp) (tenant : Tenant)
  | recordSent (signedUp : SignedUp) (founder : User)
  | recordSignup (signedUp : SignedUp)
  /-- The call has ended. -/
  | done (outcome : Except AuthError WorkspaceAnswer)

/-- The call throws. -/
def WorkspacePhase.throws (error : AuthError) : WorkspacePhase τ :=
  .done (.error error)

/-- The first phase of a call. -/
def WorkspaceRequest.begins : WorkspaceRequest τ → WorkspacePhase τ
  | .create dto => .findSlug dto
  | .signup dto ip => .findSignupApp dto ip

/-- A workspace that is new. -/
def newTenant (id slug name : String) : Tenant :=
  ⟨id, slug, name, .active, none, none⟩

/-- `/[a-z0-9]/`. -/
def isSlugChar (char : Char) : Bool :=
  ('a' ≤ char && char ≤ 'z') || ('0' ≤ char && char ≤ '9')

/-- `replace(/[^a-z0-9]+/g, '-')`, where the character before may be one of
those that are replaced. -/
def dashed (replacing : Bool) : List Char → List Char
  | [] => []
  | char :: rest =>
      if isSlugChar char then char :: dashed false rest
      else if replacing then dashed true rest
      else '-' :: dashed true rest

/-- `slugify`. -/
def slugify (env : AuthEnv) (name : String) : String :=
  let isDash : Char → Bool := fun char => char = '-'
  let text := dashed false (env.toLowerCase name).toList
  let trimmed := ((text.dropWhile isDash).reverse.dropWhile isDash).reverse
  String.ofList (trimmed.take 40)

/-- Past the read of the app: the slug is taken from the request or derived. -/
def Signup.begins (env : AuthEnv) (dto : SignupDto τ) (ip : Option String)
    (app : App) : WorkspacePhase τ :=
  match given dto.slug with
  | some slug => .findTaken ⟨dto, ip, app, slug⟩
  | none =>
      .findDerived ⟨dto, ip, app,
        (given (some (slugify env dto.company))).getD "workspace"⟩

/-- `tenant.findUnique` by slug. -/
def Accounts.slugTaken (accounts : Accounts) (slug : String) : Bool :=
  accounts.tenants.rows.any fun tenant => tenant.slug = slug

/-- The slug of a signup that derived a slug which is taken. -/
def suffixed (slug suffix : String) : String :=
  String.ofList (slug.toList.take 34) ++ "-" ++ suffix

/-- The workspace name is taken. -/
def nameTaken (slug : String) : WorkspacePhase τ :=
  .throws (.conflict ("Workspace name \"" ++ slug ++ "\" is already taken"))

/-- The founder of a workspace. -/
def Signup.founder (signup : Signup τ) (env : AuthEnv) (userId : String)
    (tenant : Tenant) (passwordHash : String) : User where
  id := userId
  tenantId := some tenant.id
  email := env.toLowerCase signup.dto.email
  name := fullName env signup.dto.firstName signup.dto.lastName
  firstName := signup.dto.firstName
  lastName := signup.dto.lastName
  phone := none
  passwordHash := passwordHash
  isPlatformAdmin := false
  isTenantAdmin := true
  emailVerifiedAt := none
  deletedAt := none
  roles := []

/-- The transaction of a signup: the workspace, its founder, and the trial of
the app, or what it throws. -/
def Signup.create (signup : Signup τ) (env : AuthEnv) (input : WorkspaceInput)
    (passwordHash : String) (trialEndsAt : Nat) (accounts : Accounts) :
    Except (WorkspacePhase τ) (Accounts × Tenant) :=
  let tenant := newTenant input.fresh.id signup.slug signup.dto.company
  match accounts.createTenant tenant with
  | none => .error (nameTaken signup.slug)
  | some withTenant =>
      match withTenant.createUser
          (signup.founder env input.userId tenant passwordHash) with
      | none => .error (nameTaken signup.slug)
      | some withFounder =>
          match withFounder.createEnablement
              ⟨tenant.id, signup.app.id, .trial, "free", some trialEndsAt, none,
                none⟩ with
          | none => .error (.throws .internal)
          | some enabled => .ok (enabled, tenant)

/-- Carry out the statement a call waits for, and go on to the next one.  The
text of the verification mail is left out. -/
def WorkspacePhase.step (env : WorkspaceEnv τ) (input : WorkspaceInput)
    (db : AuthDb) : WorkspacePhase τ → AuthDb × WorkspacePhase τ
  | .findSlug dto =>
      (db, if db.accounts.slugTaken dto.slug then
          .throws (.conflict ("Slug \"" ++ dto.slug ++ "\" is already taken"))
        else .createTenant dto)
  | .createTenant dto =>
      let tenant := newTenant input.fresh.id dto.slug dto.name
      match db.accounts.createTenant tenant with
      | none => (db, .throws .internal)
      | some accounts =>
          (db.withAccounts accounts,
            .findAutoEnroll tenant (dto.plan.getD "free"))
  | .findAutoEnroll tenant plan =>
      let appIds := (db.accounts.apps.rows.filter env.autoEnroll).map App.id
      (db, if 0 < appIds.length then .createMany tenant plan appIds
        else .recordCreated tenant)
  | .createMany tenant plan appIds =>
      match Accounts.enroll tenant.id plan appIds db.accounts with
      | none => (db, .throws .internal)
      | some accounts => (db.withAccounts accounts, .recordCreated tenant)
  | .recordCreated tenant =>
      (db.record ⟨"tenant.created", some tenant.id, none, none, none,
        .workspace tenant.slug⟩, .done (.ok (.tenant tenant)))
  | .findSignupApp dto ip =>
      (db, match assertSignupAllowed env.keys env.signupMode dto.inviteToken
          (input.now / 1000) with
        | .error error => .throws error
        | .ok () =>
            match db.accounts.findApp dto.clientId with
            | none => .throws (.badRequest "Unknown app")
            | some app => Signup.begins env.toAuthEnv dto ip app)
  | .findTaken signup =>
      (db, if db.accounts.slugTaken signup.slug then nameTaken signup.slug
        else .hashPassword signup)
  | .findDerived signup =>
      (db, if db.accounts.slugTaken signup.slug then
          .hashPassword
            { signup with slug := suffixed signup.slug input.suffix }
        else .hashPassword signup)
  | .hashPassword signup =>
      (db, .transaction signup
        (env.bcryptHash signup.dto.password input.fresh.salt)
        (input.now + env.trialDays * 86400000))
  | .transaction signup passwordHash trialEndsAt =>
      match signup.create env.toAuthEnv input passwordHash trialEndsAt
          db.accounts with
      | .error failed => (db, failed)
      | .ok (accounts, tenant) =>
          (db.withAccounts accounts, .findWorkspace ⟨tenant,
            env.toLowerCase signup.dto.email, signup.dto.clientId, signup.ip,
            trialEndsAt⟩)
  | .findWorkspace signedUp =>
      (db, match db.accounts.findTenant signedUp.tenant.slug with
        | none => .recordSignup signedUp
        | some tenant => .findFounder signedUp tenant)
  | .findFounder signedUp tenant =>
      (db, match db.accounts.findUser (some tenant.id)
          (env.toLowerCase signedUp.email) with
        | none => .recordSignup signedUp
        | some founder =>
            if founder.emailVerifiedAt.isSome || !input.allowed then
              .recordSignup signedUp
            else .recordSent signedUp founder)
  | .recordSent signedUp founder =>
      (db.record ⟨"auth.verification_sent", founder.tenantId, some founder.id,
        none, none, .none⟩, .recordSignup signedUp)
  | .recordSignup signedUp =>
      (db.record ⟨"auth.signup", some signedUp.tenant.id, none,
        some signedUp.clientId, signedUp.ip,
        .signup signedUp.tenant.slug signedUp.email signedUp.trialEndsAt⟩,
        .done (.ok (.signedUp signedUp.tenant.slug signedUp.trialEndsAt)))
  | .done outcome => (db, .done outcome)

/-- The slug under which the next statement of a call creates a workspace. -/
def WorkspacePhase.founding : WorkspacePhase τ → Option String
  | .createTenant dto => some dto.slug
  | .transaction signup _ _ => some signup.slug
  | _ => none

/-- What a transaction that is not rolled back has created. -/
theorem Signup.of_create
    {signup : Signup τ}
    {env : AuthEnv}
    {input : WorkspaceInput}
    {passwordHash : String}
    {trialEndsAt : Nat}
    {accounts enabled : Accounts}
    {tenant : Tenant}
    (isCreated : signup.create env input passwordHash trialEndsAt accounts =
      .ok (enabled, tenant)) :
    tenant = newTenant input.fresh.id signup.slug signup.dto.company ∧
      ∃ withTenant withFounder,
        accounts.createTenant tenant = some withTenant ∧
        withTenant.createUser
          (signup.founder env input.userId tenant passwordHash) =
            some withFounder ∧
        withFounder.createEnablement
          ⟨tenant.id, signup.app.id, .trial, "free", some trialEndsAt, none,
            none⟩ = some enabled := by
  simp only [Signup.create] at isCreated
  split at isCreated
  · contradiction
  · rename_i withTenant created
    split at isCreated
    · contradiction
    · rename_i withFounder founded
      split at isCreated
      · contradiction
      · rename_i isEnabled
        simp only [Except.ok.injEq, Prod.mk.injEq] at isCreated
        obtain ⟨rfl, rfl⟩ := isCreated
        exact ⟨rfl, withTenant, withFounder, created, founded, isEnabled⟩

/-! ## What a statement does to the slugs -/

namespace Accounts

/-- Every tenant has been there before, under its slug. -/
def KeepsSlugs (before after : Accounts) : Prop :=
  ∀ slug id, after.Named slug id → before.Named slug id

variable {accounts after : Accounts}

theorem keepsSlugs_of_sameTenants
    (same : after.tenants = accounts.tenants) :
    accounts.KeepsSlugs after := by
  intro slug id named
  unfold Named at named ⊢
  rw [← same]
  exact named

theorem KeepsSlugs.refl (accounts : Accounts) : accounts.KeepsSlugs accounts :=
  fun _ _ named => named

theorem keepsSlugs_updateTenant
    {id : String}
    {change : Tenant → Tenant}
    (updated : accounts.updateTenant id change = some after)
    (keeps : ∀ tenant,
      (change tenant).slug = tenant.slug ∧ (change tenant).id = tenant.id) :
    accounts.KeepsSlugs after := by
  simp only [updateTenant, Option.map_eq_some_iff] at updated
  obtain ⟨stored, found, rfl⟩ := updated
  rintro slug other ⟨tenant, present, isSlug, isId⟩
  rcases (accounts.tenants.mem_put_iff _ tenant).mp present with
    rfl | ⟨before, _⟩
  · obtain ⟨sameSlug, sameId⟩ := keeps stored
    exact ⟨stored, accounts.tenants.mem_of_find? found,
      sameSlug.symm.trans isSlug, sameId.symm.trans isId⟩
  · exact ⟨tenant, before, isSlug, isId⟩

theorem keepsSlugs_eraseTenant (accounts : Accounts) (id : String) :
    accounts.KeepsSlugs (accounts.eraseTenant id) := by
  rintro slug other ⟨tenant, present, isSlug, isId⟩
  exact ⟨tenant, List.mem_of_mem_filter present, isSlug, isId⟩

theorem tenants_of_updateUser
    {id : String}
    {change : User → User}
    (updated : accounts.updateUser id change = some after) :
    after.tenants = accounts.tenants := by
  simp only [updateUser, Option.bind_eq_some_iff] at updated
  obtain ⟨_, _, written⟩ := updated
  exact (others_of_putUser written).1

theorem tenants_of_createUser
    {user : User}
    (created : accounts.createUser user = some after) :
    after.tenants = accounts.tenants := by
  unfold createUser at created
  split at created
  · contradiction
  · exact (others_of_putUser created).1

theorem tenants_of_createEnablement
    {enablement : AppTenant}
    (created : accounts.createEnablement enablement = some after) :
    after.tenants = accounts.tenants := by
  unfold createEnablement at created
  split at created
  · obtain rfl := Option.some.inj created
    rfl
  · contradiction

theorem tenants_of_enroll
    {tenantId plan : String}
    {appIds : List String}
    (enrolled : enroll tenantId plan appIds accounts = some after) :
    after.tenants = accounts.tenants := by
  induction appIds generalizing accounts with
  | nil =>
      obtain rfl := Option.some.inj enrolled
      rfl
  | cons appId appIds inductionHypothesis =>
      simp only [enroll, Option.bind_eq_some_iff] at enrolled
      obtain ⟨middle, created, rest⟩ := enrolled
      exact (inductionHypothesis rest).trans
        (tenants_of_createEnablement created)

/-- A created tenant takes a slug that no tenant has. -/
theorem named_of_createTenant
    {tenant : Tenant}
    (created : accounts.createTenant tenant = some after) :
    (∀ id, ¬ accounts.Named tenant.slug id) ∧
      ∀ slug id, after.Named slug id →
        accounts.Named slug id ∨ slug = tenant.slug ∧ id = tenant.id := by
  unfold createTenant at created
  split at created
  · contradiction
  · rename_i free
    simp only [Bool.or_eq_true, List.any_eq_true, decide_eq_true_eq, not_or,
      not_exists, not_and] at free
    obtain rfl := Option.some.inj created
    constructor
    · rintro id ⟨other, present, isSlug, _⟩
      exact free.2 other present isSlug
    · rintro slug id ⟨other, present, isSlug, isId⟩
      rcases (accounts.tenants.mem_put_iff _ other).mp present with
        rfl | ⟨before, _⟩
      · exact Or.inr ⟨isSlug.symm, isId.symm⟩
      · exact Or.inl ⟨other, before, isSlug, isId⟩

end Accounts

section Step

variable (now : Nat) (fresh : Fresh)

/-- No session call writes a tenant. -/
theorem Phase.tenants_step (env : AuthEnv) (db : AuthDb) (phase : Phase) :
    (phase.step env now fresh db).1.accounts.tenants = db.accounts.tenants := by
  cases phase with
  | rotate grant stored =>
      simp only [Phase.step]
      split <;> rfl
  | createToken grant =>
      simp only [Phase.step]
      split <;> rfl
  | resetTransaction user passwordHash =>
      simp only [Phase.step]
      split
      · rfl
      · rename_i updated
        exact Accounts.tenants_of_updateUser updated
  | writeUser update =>
      simp only [Phase.step]
      split
      · rfl
      · rename_i updated
        exact Accounts.tenants_of_updateUser updated
  | _ => rfl

theorem AdminPhase.keepsSlugs_step (env : AdminEnv) (db : AuthDb)
    (phase : AdminPhase) :
    db.accounts.KeepsSlugs (phase.step env now fresh db).1.accounts := by
  have writes : ∀ (id : String) (change : User → User)
      (next : User → AdminPhase),
        db.accounts.KeepsSlugs (db.writeUser id change next).1.accounts := by
    intro id change next
    unfold AuthDb.writeUser
    split
    · exact .refl _
    · rename_i updated
      exact Accounts.keepsSlugs_of_sameTenants
        (Accounts.tenants_of_updateUser updated)
  cases phase with
  | update phase =>
      exact Accounts.keepsSlugs_of_sameTenants
        (phase.tenants_step now fresh env.toAuthEnv db)
  | softDelete id => exact writes id _ _
  | restore id => exact writes id _ _
  | purge user =>
      simp only [AdminPhase.step, AuthDb.purgeUser]
      cases db.accounts.users.find? user.id <;> exact .refl _
  | softDeleteTenant id =>
      simp only [AdminPhase.step]
      split
      · exact .refl _
      · rename_i updated
        exact Accounts.keepsSlugs_updateTenant updated fun _ => ⟨rfl, rfl⟩
  | purgeTenant tenant =>
      simp only [AdminPhase.step, AuthDb.purgeTenant]
      cases db.accounts.tenants.find? tenant.id with
      | none => exact .refl _
      | some _ => exact db.accounts.keepsSlugs_eraseTenant tenant.id
  | createMember tenantId actorId dto =>
      simp only [AdminPhase.step]
      split
      · exact .refl _
      · rename_i created
        exact Accounts.keepsSlugs_of_sameTenants
          (Accounts.tenants_of_createUser created)
  | writeMember write scope => exact writes scope.id _ _
  | _ => exact .refl _

theorem LifecyclePhase.keepsSlugs_step (env : AuthEnv) (db : ConsoleDb)
    (phase : LifecyclePhase) :
    db.auth.accounts.KeepsSlugs
      (phase.step env now fresh db).1.auth.accounts := by
  cases phase with
  | console phase => exact phase.keepsSlugs_step now fresh _ db.auth
  | restoreTenant id =>
      simp only [LifecyclePhase.step]
      split
      · exact .refl _
      · rename_i updated
        exact Accounts.keepsSlugs_updateTenant updated fun _ => ⟨rfl, rfl⟩
  | writeApp existing deleted =>
      simp only [LifecyclePhase.step]
      split
      · exact .refl _
      · rename_i updated
        apply Accounts.keepsSlugs_of_sameTenants
        unfold Accounts.markApp at updated
        split at updated
        · contradiction
        · obtain rfl := Option.some.inj updated
          rfl
  | purgeApp app roles tenants =>
      simp only [LifecyclePhase.step, ConsoleDb.purgeApp]
      cases db.auth.accounts.apps.find? app.id <;> exact .refl _
  | _ => exact .refl _

theorem PasskeyPhase.tenants_step (env : PasskeyEnv τ) (db : PasskeyDb)
    (phase : PasskeyPhase τ) :
    (phase.step env now fresh db).1.auth.accounts.tenants =
      db.auth.accounts.tenants := by
  cases phase with
  | updateCredential request row newCounter =>
      simp only [PasskeyPhase.step]
      split
      · rfl
      · rename_i used
        rw [PasskeyDb.auth_of_useCredential used]
  | signIn phase =>
      cases phase with
      | recordLogin grant ip session => rfl
      | _ => exact Phase.tenants_step now fresh env.toAuthEnv db.auth _
  | _ => rfl

/-- A tenant that was not there before has the slug that the call was to found,
which was free. -/
theorem WorkspacePhase.named_step
    (env : WorkspaceEnv τ)
    (input : WorkspaceInput)
    (db : AuthDb)
    (phase : WorkspacePhase τ)
    {slug id : String}
    (named : (phase.step env input db).1.accounts.Named slug id) :
    db.accounts.Named slug id ∨
      phase.founding = some slug ∧ id = input.fresh.id ∧
        ∀ other, ¬ db.accounts.Named slug other := by
  cases phase with
  | createTenant dto =>
      simp only [WorkspacePhase.step] at named
      split at named
      · exact Or.inl named
      · rename_i accounts created
        obtain ⟨free, added⟩ := Accounts.named_of_createTenant created
        rcases added slug id named with before | ⟨rfl, rfl⟩
        · exact Or.inl before
        · exact Or.inr ⟨rfl, rfl, free⟩
  | createMany tenant plan appIds =>
      simp only [WorkspacePhase.step] at named
      split at named
      · exact Or.inl named
      · rename_i accounts enrolled
        exact Or.inl (Accounts.keepsSlugs_of_sameTenants
          (Accounts.tenants_of_enroll enrolled) slug id named)
  | transaction signup passwordHash trialEndsAt =>
      simp only [WorkspacePhase.step] at named
      split at named
      · exact Or.inl named
      · rename_i enabled tenant isCreated
        obtain ⟨rfl, withTenant, withFounder, created, founded, isEnabled⟩ :=
          Signup.of_create isCreated
        obtain ⟨free, added⟩ := Accounts.named_of_createTenant created
        have inFounder : withFounder.Named slug id :=
          Accounts.keepsSlugs_of_sameTenants
            (Accounts.tenants_of_createEnablement isEnabled) slug id named
        have inTenant : withTenant.Named slug id :=
          Accounts.keepsSlugs_of_sameTenants
            (Accounts.tenants_of_createUser founded) slug id inFounder
        rcases added slug id inTenant with before | ⟨rfl, rfl⟩
        · exact Or.inl before
        · exact Or.inr ⟨rfl, rfl, free⟩
  | _ => exact Or.inl named

end Step

end Auth
end EvoPlatform
