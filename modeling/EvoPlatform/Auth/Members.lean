import EvoPlatform.Auth.Administration
import EvoPlatform.Auth.SignedTokens

/-!
# The members of a workspace

What a tenant admin may do to the members of a workspace, behind the guards.
The workspace and the acting admin are those of the access token.  What a
statement of such a call can do is said once, with one case for each kind of
effect.
-/

namespace EvoPlatform
namespace Auth

variable {τ : Type}

/-- The tenant and the user of an admitted token. -/
structure TenantCaller where
  tenantId : String
  actorId : String

/-- What a tenant admin asks for. -/
inductive MemberRequest
  | create (dto : CreateMemberDto)
  | member (operation : MemberOperation) (id : String)

/-- A request under `/tenant/users`, with the token that follows `Bearer` and
the second of its arrival. -/
structure TenantRequest (τ : Type) where
  bearer : Option τ
  arrivesAt : Nat
  request : MemberRequest

/-! ## The guards -/

/-- `TenantAdminGuard.canActivate`; a tenant id is text wherever it is
signed. -/
def tenantAdminGuard (claims : Claims) : Except AuthError String :=
  match claims.get? "tenant_admin", claims.givenString? "tenant_id" with
  | some (.bool true), some tenantId => .ok tenantId
  | _, _ => .error (.forbidden "Tenant admin required")

/-- `req.user.sub`. -/
def Claims.sub (claims : Claims) : String :=
  ((claims.get? "sub").map Json.text).getD ""

/-- `JwtAuthGuard`, then `TenantAdminGuard`. -/
def tenantGuards (keys : Keys τ) (bearer : Option τ) (now : Nat) :
    Except AuthError TenantCaller :=
  match jwtAuthGuard keys bearer now with
  | .error error => .error error
  | .ok claims =>
      match tenantAdminGuard claims with
      | .error error => .error error
      | .ok tenantId => .ok ⟨tenantId, claims.sub⟩

/-- The call of the service that a route makes. -/
def MemberRequest.call (caller : TenantCaller) : MemberRequest → AdminRequest
  | .create dto => .createMember caller.tenantId caller.actorId dto
  | .member operation id =>
      .member operation ⟨caller.tenantId, caller.actorId, id⟩

/-- The first phase of a request. -/
def TenantRequest.begins (keys : Keys τ) (request : TenantRequest τ) :
    AdminPhase :=
  match tenantGuards keys request.bearer request.arrivesAt with
  | .error error => .throws error
  | .ok caller => (request.request.call caller).begins

/-- The requests under `/tenant/users` as a program. -/
def memberCalls (keys : Keys τ) (env : AdminEnv) :
    Program AuthDb (TenantRequest τ) (Nat × Fresh) AdminPhase where
  begins := TenantRequest.begins keys
  step := (administration env).step
  abandoned := (administration env).abandoned

/-! ## What a statement can do -/

/-- The member that a call may touch. -/
def Accounts.IsMember (accounts : Accounts) (scope : MemberScope) : Prop :=
  ∃ user, accounts.users.find? scope.id = some user ∧
    user.tenantId = some scope.tenantId ∧ user.isPlatformAdmin = false

namespace AdminPhase

/-- The call has ended. -/
def isDone : AdminPhase → Bool
  | .done _ => true
  | _ => false

/-- A call on members, or one that has ended. -/
def ofMembers : AdminPhase → Bool
  | .findAddress .. | .createMember .. | .recordCreated .. | .findMember ..
  | .findRoles .. | .findEnabled .. | .writeMember .. | .recordMember ..
  | .getMember .. | .done _ => true
  | _ => false

/-- The member for whom a call has passed `getMember`, before its write. -/
def checked : AdminPhase → Option MemberScope
  | .findRoles scope _ | .findEnabled scope _ | .writeMember _ scope =>
      some scope
  | _ => none

/-- A call that is past its write, or has ended. -/
def harmless : AdminPhase → Bool
  | .recordCreated .. | .recordMember .. | .getMember .. | .done _ => true
  | _ => false

theorem ofMembers_of_harmless
    {phase : AdminPhase}
    (isHarmless : phase.harmless = true) :
    phase.ofMembers = true := by
  cases phase <;> first | rfl | contradiction

theorem checked_of_harmless
    {phase : AdminPhase}
    (isHarmless : phase.harmless = true) :
    phase.checked = none := by
  cases phase <;> first | rfl | contradiction

/-- What the next statement of a call on members can do to the database and to
the call. -/
inductive MemberMoves (env : AdminEnv) (now : Nat) (fresh : Fresh)
    (db : AuthDb) : AdminPhase → AuthDb → AdminPhase → Prop
  | quiet {phase next : AdminPhase} {after : AuthDb} :
      next.harmless = true → after.accounts = db.accounts →
      MemberMoves env now fresh db phase after next
  | unheld (tenantId actorId : String) (dto : CreateMemberDto) :
      MemberMoves env now fresh db (.findAddress tenantId actorId dto) db
        (.createMember tenantId actorId dto)
  | found (operation : MemberOperation) (scope : MemberScope)
      {existing : User} :
      db.accounts.getMember scope = some existing →
      MemberMoves env now fresh db (.findMember operation scope) db
        (operation.goesOn env.toAuthEnv scope existing)
  | foundRoles (scope : MemberScope) (unique : List String)
      {roles : List StoredRole} :
      (∀ role ∈ roles, role ∈ env.roles.rows) →
      MemberMoves env now fresh db (.findRoles scope unique) db
        (.findEnabled scope roles)
  | enabled (scope : MemberScope) {roles : List StoredRole} :
      (∀ role ∈ roles, (db.accounts.appTenants.find?
        (scope.tenantId, role.appId)).isSome) →
      MemberMoves env now fresh db (.findEnabled scope roles) db
        (.writeMember (.setRoles roles) scope)
  | created (tenantId actorId : String) (dto : CreateMemberDto)
      {accounts : Accounts} {next : AdminPhase} :
      db.accounts.createUser (dto.member env.toAuthEnv now fresh tenantId) =
        some accounts →
      next.harmless = true →
      MemberMoves env now fresh db (.createMember tenantId actorId dto)
        (db.withAccounts accounts) next
  | wrote (write : MemberWrite) (scope : MemberScope) {accounts : Accounts}
      {next : AdminPhase} :
      db.accounts.updateUser scope.id (fun user => write.change now user) =
        some accounts →
      next.harmless = true →
      MemberMoves env now fresh db (.writeMember write scope)
        (db.withAccounts accounts) next

end AdminPhase

theorem Accounts.isMember_of_getMember
    {accounts : Accounts}
    {scope : MemberScope}
    {user : User}
    (found : accounts.getMember scope = some user) :
    accounts.IsMember scope := by
  simp only [getMember, Option.filter_eq_some_iff, Bool.and_eq_true,
    decide_eq_true_eq, Bool.not_eq_true'] at found
  exact ⟨user, found.1, found.2.1, found.2.2⟩

/-- A write changes neither the id, nor the tenant, nor the rights on the
platform. -/
theorem MemberWrite.change_keeps (write : MemberWrite) (now : Nat)
    (user : User) :
    (write.change now user).id = user.id ∧
      (write.change now user).tenantId = user.tenantId ∧
      (write.change now user).email = user.email ∧
      (write.change now user).isPlatformAdmin = user.isPlatformAdmin := by
  cases write <;> exact ⟨rfl, rfl, rfl, rfl⟩

/-- Every statement of a call on members moves so. -/
theorem memberMoves_step
    (env : AdminEnv)
    (now : Nat)
    (fresh : Fresh)
    (db : AuthDb)
    {phase : AdminPhase}
    (ofMembers : phase.ofMembers = true) :
    phase.MemberMoves env now fresh db (phase.step env now fresh db).1
      (phase.step env now fresh db).2 := by
  cases phase with
  | findAddress tenantId actorId dto =>
      simp only [AdminPhase.step]
      split
      · exact .quiet rfl rfl
      · exact .unheld tenantId actorId dto
  | createMember tenantId actorId dto =>
      simp only [AdminPhase.step]
      split
      · exact .quiet rfl rfl
      · rename_i accounts created
        exact .created tenantId actorId dto created rfl
  | recordCreated tenantId actorId email member => exact .quiet rfl rfl
  | findMember operation scope =>
      simp only [AdminPhase.step]
      split
      · exact .quiet rfl rfl
      · rename_i existing found
        exact .found operation scope found
  | findRoles scope unique =>
      simp only [AdminPhase.step]
      split
      · exact .quiet rfl rfl
      · exact .foundRoles scope unique fun role present =>
          (List.mem_filter.mp present).1
  | findEnabled scope roles =>
      simp only [AdminPhase.step]
      split
      · exact .quiet rfl rfl
      · rename_i allEnabled
        apply AdminPhase.MemberMoves.enabled
        intro role present
        simp only [List.any_eq_true, not_exists, not_and,
          Option.isNone_iff_eq_none] at allEnabled
        exact Option.isSome_iff_ne_none.mpr (allEnabled role present)
  | writeMember write scope =>
      simp only [AdminPhase.step, AuthDb.writeUser]
      split
      · exact .quiet rfl rfl
      · rename_i accounts updated
        apply AdminPhase.MemberMoves.wrote write scope updated
        split <;> rfl
  | recordMember write scope member =>
      refine .quiet ?_ rfl
      cases write <;> rfl
  | getMember scope =>
      simp only [AdminPhase.step]
      split <;> exact .quiet rfl rfl
  | done outcome => exact .quiet rfl rfl
  | _ => contradiction

/-- What an operation comes to write right after the read of the member; no
admin takes the own role or the own account away. -/
def MemberWrite.Of (operation : MemberOperation) (scope : MemberScope) :
    MemberWrite → Prop
  | .update dto _ => operation = .update dto ∧
      ¬ (scope.id = scope.actorId ∧ dto.isTenantAdmin = some false)
  | .deactivate => operation = .deactivate ∧ scope.id ≠ scope.actorId
  | .restore => operation = .restore
  | .setRoles roles => roles = []

/-- Past the read of the member, a call is refused, looks up the roles, or is
about to write. -/
theorem MemberOperation.goesOn_cases
    (env : AuthEnv)
    (scope : MemberScope)
    (existing : User)
    (operation : MemberOperation) :
    (∃ error, operation.goesOn env scope existing = .throws error) ∨
      (∃ roleIds unique, operation = .setRoles roleIds ∧
        operation.goesOn env scope existing = .findRoles scope unique) ∨
      ∃ write : MemberWrite, operation.goesOn env scope existing =
        .writeMember write scope ∧ write.Of operation scope := by
  cases operation with
  | update dto =>
      simp only [MemberOperation.goesOn]
      split
      · exact Or.inl ⟨_, rfl⟩
      · rename_i permitted
        simp only [Bool.and_eq_true, decide_eq_true_eq] at permitted
        exact Or.inr (Or.inr ⟨_, rfl, rfl, permitted⟩)
  | deactivate =>
      simp only [MemberOperation.goesOn]
      split
      · exact Or.inl ⟨_, rfl⟩
      · rename_i other
        exact Or.inr (Or.inr ⟨_, rfl, rfl, other⟩)
  | restore => exact Or.inr (Or.inr ⟨_, rfl, rfl⟩)
  | setRoles roleIds =>
      simp only [MemberOperation.goesOn]
      split
      · exact Or.inr (Or.inl ⟨roleIds, _, rfl, rfl⟩)
      · exact Or.inr (Or.inr ⟨_, rfl, rfl⟩)

namespace AdminPhase.MemberMoves

variable {env : AdminEnv} {now : Nat} {fresh : Fresh} {db after : AuthDb}
  {phase next : AdminPhase}

/-- A call on members stays one. -/
theorem ofMembers (moves : MemberMoves env now fresh db phase after next) :
    next.ofMembers = true := by
  cases moves with
  | quiet isHarmless _ => exact ofMembers_of_harmless isHarmless
  | @found operation scope existing _ =>
      rcases operation.goesOn_cases env.toAuthEnv scope existing with
        ⟨_, goesOn⟩ | ⟨_, _, _, goesOn⟩ | ⟨_, goesOn, _⟩ <;>
      · rw [goesOn]
        rfl
  | unheld tenantId actorId dto => rfl
  | foundRoles scope unique _ => rfl
  | enabled scope _ => rfl
  | created tenantId actorId dto _ isHarmless =>
      exact ofMembers_of_harmless isHarmless
  | wrote write scope _ isHarmless => exact ofMembers_of_harmless isHarmless

/-- The member whom a call may touch after a statement is one. -/
theorem isMember
    (moves : MemberMoves env now fresh db phase after next)
    (before : ∀ scope ∈ phase.checked, db.accounts.IsMember scope) :
    ∀ scope ∈ next.checked, after.accounts.IsMember scope := by
  cases moves with
  | quiet isHarmless _ =>
      rw [checked_of_harmless isHarmless]
      exact fun scope absent => by contradiction
  | @found operation scope existing isMember =>
      have member := Accounts.isMember_of_getMember isMember
      rcases operation.goesOn_cases env.toAuthEnv scope existing with
        ⟨error, goesOn⟩ | ⟨_, unique, _, goesOn⟩ | ⟨write, goesOn, _⟩
      · rw [goesOn]
        exact fun scope absent => by contradiction
      · rw [goesOn]
        rintro other ⟨⟩
        exact member
      · rw [goesOn]
        rintro other ⟨⟩
        exact member
  | unheld tenantId actorId dto => exact before
  | foundRoles scope unique _ => exact before
  | enabled scope _ => exact before
  | created tenantId actorId dto _ isHarmless =>
      rw [checked_of_harmless isHarmless]
      exact fun scope absent => by contradiction
  | wrote write scope _ isHarmless =>
      rw [checked_of_harmless isHarmless]
      exact fun scope absent => by contradiction

end AdminPhase.MemberMoves

end Auth
end EvoPlatform
